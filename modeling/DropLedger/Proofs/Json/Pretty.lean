import DropLedger.Proofs.Json.Spelling

/-! Writing a value over several lines is another way to spell it. Each item and each entry stands
behind a line end, and so does the closing sign. -/
namespace DropLedger.Json

/-- A line end and the white space before what is on the next line. -/
def Gap.line (level : Nat) : Gap where
  chars := newLine level
  space := by
    intro c member
    rcases List.mem_cons.mp member with rfl | inside
    · rfl
    · rw [List.eq_of_mem_replicate inside]
      rfl

/-- What stands between the colon of an entry and its value. -/
def Gap.blank : Gap := ⟨[' '], forall_mem_of_all (by decide)⟩

/-- An item with more white space behind it. -/
def Item.spaced (gap : Gap) (i : Item) : Item := { i with after := i.after.join gap }

theorem Item.spaced_written (gap : Gap) (i : Item) :
    (i.spaced gap).written = i.written ++ gap.chars := by
  simp [written, spaced, Gap.join]

def Entry.spaced (gap : Gap) (e : Entry) : Entry := { e with item := e.item.spaced gap }

theorem Entry.spaced_written (gap : Gap) (e : Entry) :
    (e.spaced gap).written = e.written ++ gap.chars := by
  simp [written, spaced, Item.spaced_written]

/-- White space before the closing sign belongs to the last part. Nothing else about the parts
changes. -/
theorem space_last {ι β : Type} {written : ι → List Char} {spaced : ι → ι} {gap : List Char}
    (told : ι → β) (longer : ∀ i, written (spaced i) = written i ++ gap)
    (same : ∀ i, told (spaced i) = told i) (first : ι) (others : List ι) :
    ∃ (front : ι) (rest : List ι), (front :: rest).map told = (first :: others).map told ∧
      written front ++ rest.flatMap (fun i => ',' :: written i) =
        written first ++ others.flatMap (fun i => ',' :: written i) ++ gap := by
  induction others generalizing first with
  | nil => exact ⟨spaced first, [], by simp [same], by simp [longer]⟩
  | cons next others ih =>
    obtain ⟨front, rest, said, text⟩ := ih next
    refine ⟨first, front :: rest, ?_, ?_⟩
    · rw [List.map_cons, said, List.map_cons (a := first)]
    · simp [List.flatMap_cons, text]

/-- Parts of which the same is told are spelled alike and read alike. -/
theorem same_parts {ι β γ : Type} {told : ι → β} {as bs : List ι} (same : as.map told = bs.map told)
    (spelled : β → Prop) (reading : β → Except Fault γ) :
    ((∀ b ∈ bs, spelled (told b)) → ∀ a ∈ as, spelled (told a)) ∧
      as.mapM (fun a => reading (told a)) = bs.mapM fun b => reading (told b) := by
  constructor
  · intro all
    have listed := List.forall_mem_map (P := spelled).mpr all
    rw [← same] at listed
    exact List.forall_mem_map.mp listed
  · have read (is : List ι) : (is.map told).mapM reading = is.mapM fun i => reading (told i) :=
      List.mapM_map
    rw [← read as, same, read bs]

namespace Spells

variable {depth : Nat}

theorem list_spaced {first : Item} {others : List Item}
    (spelled : ∀ i ∈ first :: others, Spells depth i.reading i.text) (gap : Gap) :
    Spells (depth + 1) (((first :: others).mapM Item.reading).map .list)
      ('[' :: (first.written ++ others.flatMap (fun i => ',' :: i.written) ++ gap.chars ++
        [']'])) := by
  obtain ⟨front, rest, same, text⟩ := space_last (fun i : Item => (i.reading, i.text))
    (Item.spaced_written gap) (fun _ => rfl) first others
  obtain ⟨parts, readings⟩ := same_parts same (fun p => Spells depth p.1 p.2) Prod.fst
  have list := Spells.list (parts spelled)
  rw [text] at list
  rw [← readings]
  exact list

theorem object_spaced {first : Entry} {others : List Entry}
    (spelled : ∀ e ∈ first :: others, Spells depth e.item.reading e.item.text) (gap : Gap) :
    Spells (depth + 1) (((first :: others).mapM Entry.reading).map .object)
      ('{' :: (first.written ++ others.flatMap (fun e => ',' :: e.written) ++ gap.chars ++
        ['}'])) := by
  obtain ⟨front, rest, same, text⟩ := space_last
    (fun e : Entry => (e.key, e.item.reading, e.item.text)) (Entry.spaced_written gap)
    (fun _ => rfl) first others
  obtain ⟨parts, readings⟩ := same_parts same (fun p => Spells depth p.2.1 p.2.2)
    fun p => p.2.1.map (p.1, ·)
  have object := Spells.object (parts spelled)
  rw [text] at object
  have read : (first :: others).mapM Entry.reading = (front :: rest).mapM Entry.reading :=
    readings.symm
  rw [read]
  exact object

end Spells

/-- An item on a line of its own. -/
def Item.line (level : Nat) (reading : Except Fault Value) (text : List Char) : Item :=
  ⟨.line level, reading, text, .empty⟩

theorem Item.line_written (level : Nat) (reading : Except Fault Value) (text : List Char) :
    (line level reading text).written = newLine level ++ text := by
  simp [line, written, Gap.line, Gap.empty]

/-- An entry on a line of its own whose key is written as texts are. -/
def Entry.line (level : Nat) (key : String) (reading : Except Fault Value) (text : List Char) :
    Entry :=
  { Entry.close key reading text with
    before := .line level
    item := ⟨.blank, reading, text, .empty⟩ }

theorem Entry.line_written (level : Nat) (key : String) (reading : Except Fault Value)
    (text : List Char) :
    (line level key reading text).written =
      newLine level ++ writeText key ++ ':' :: ' ' :: text := by
  simp [line, close, written, Item.written, Gap.line, Gap.blank, Gap.empty, writeText]

theorem prettyItems_cons (level : Nat) (v : Value) (vs : List Value) :
    prettyItems level (v :: vs) = (newLine level ++ v.pretty level) ++
      vs.flatMap fun v => ',' :: (newLine level ++ v.pretty level) := by
  induction vs generalizing v with
  | nil => simp [prettyItems]
  | cons w ws ih =>
    rw [prettyItems, ih, List.flatMap_cons, List.cons_append]
    exact List.cons_ne_nil w ws

theorem prettyEntries_cons (level : Nat) (e : String × Value) (es : List (String × Value)) :
    prettyEntries level (e :: es) =
      (newLine level ++ writeText e.1 ++ ':' :: ' ' :: e.2.pretty level) ++ es.flatMap fun e =>
        ',' :: (newLine level ++ writeText e.1 ++ ':' :: ' ' :: e.2.pretty level) := by
  induction es generalizing e with
  | nil => simp [prettyEntries]
  | cons f fs ih =>
    rw [prettyEntries, ih, List.flatMap_cons]
    · simp
    · exact List.cons_ne_nil f fs

theorem rereadItems_line (level : Nat) (vs : List Value) :
    rereadItems vs =
      (vs.map fun v => Item.line level v.reread (v.pretty level)).mapM Item.reading := by
  rw [rereadItems_eq, List.mapM_map, List.mapM_map]
  rfl

theorem rereadEntries_line (level : Nat) (es : List (String × Value)) :
    rereadEntries es =
      (es.map fun e => Entry.line level e.1 e.2.reread (e.2.pretty level)).mapM Entry.reading := by
  rw [rereadEntries_eq, List.mapM_map, List.mapM_map]
  rfl

namespace Spells

variable {depth : Nat}

theorem pretty_list {vs : List Value} {level : Nat}
    (each : ∀ v ∈ vs, Spells depth v.reread (v.pretty (level + 1))) :
    Spells (depth + 1) (Value.list vs).reread ((Value.list vs).pretty level) := by
  cases vs with
  | nil => exact .emptyList .empty
  | cons v vs =>
    have items : ∀ i ∈ (v :: vs).map fun v =>
        Item.line (level + 1) v.reread (v.pretty (level + 1)),
        Spells depth i.reading i.text := by
      intro i member
      obtain ⟨w, inside, rfl⟩ := List.mem_map.mp member
      exact each w inside
    have list := Spells.list_spaced items (.line level)
    rw [Item.line_written, List.flatMap_map] at list
    simp only [Item.line_written] at list
    rw [Value.reread, rereadItems_line (level + 1), Value.pretty, prettyItems_cons]
    exact list

theorem pretty_object {es : List (String × Value)} {level : Nat}
    (each : ∀ e ∈ es, Spells depth e.2.reread (e.2.pretty (level + 1))) :
    Spells (depth + 1) (Value.object es).reread ((Value.object es).pretty level) := by
  cases es with
  | nil => exact .emptyObject .empty
  | cons e es =>
    have entries : ∀ f ∈ (e :: es).map fun e =>
        Entry.line (level + 1) e.1 e.2.reread (e.2.pretty (level + 1)),
        Spells depth f.item.reading f.item.text := by
      intro f member
      obtain ⟨g, inside, rfl⟩ := List.mem_map.mp member
      exact each g inside
    have object := Spells.object_spaced entries (.line level)
    rw [Entry.line_written, List.flatMap_map] at object
    simp only [Entry.line_written] at object
    rw [Value.reread, rereadEntries_line (level + 1), Value.pretty, prettyEntries_cons]
    exact object

end Spells

/-- Writing a value over lines is a way to spell it, however far it is set in. -/
theorem Writable.spelled_pretty {depth : Nat} {v : Value} (h : Writable depth v) (level : Nat) :
    Spells depth v.reread (v.pretty level) := by
  induction h generalizing level with
  | null => exact .null
  | bool b => cases b; exacts [.no, .yes]
  | whole n => exact .whole n
  | text s => exact .text (literal_escaped s.toList)
  | list _ ih => exact .pretty_list fun v member => ih v member (level + 1)
  | object _ ih => exact .pretty_object fun e member => ih e member (level + 1)

end DropLedger.Json
