import DropLedger.Json.Writer
import DropLedger.Proofs.Json.Numeral
import DropLedger.Proofs.Json.Value

/-! How JSON values are spelled: with white space between any two parts, text in any of its escaped
forms, and numbers of any size. All of it is read, and a number beyond the doubles is the only fault
there may be. Writing a value is one way to spell it. -/
namespace DropLedger.Json

/-- White space between the parts of a text. -/
structure Gap where
  chars : List Char
  space : ∀ c ∈ chars, isSpace c = true

/-- An item of a list as it stands in a text, and what it is read as. -/
structure Item where
  before : Gap
  reading : Except Fault Value
  text : List Char
  after : Gap

def Item.written (i : Item) : List Char := i.before.chars ++ (i.text ++ i.after.chars)

/-- An entry of an object; `name` stands for its key between the quotes. -/
structure Entry where
  before : Gap
  key : String
  name : List Char
  named : Literal key.toList name
  between : Gap
  item : Item

namespace Entry

def written (e : Entry) : List Char :=
  e.before.chars ++ '"' :: (e.name ++ '"' :: (e.between.chars ++ ':' :: e.item.written))

def reading (e : Entry) : Except Fault (String × Value) := e.item.reading.map (e.key, ·)

end Entry

/-- The texts of JSON values with at most `depth` lists and objects nested, where no surrogate
stands alone, and what they are to be read as: a value, or the fault of the first number that is
beyond the doubles. -/
inductive Spells : Nat → Except Fault Value → List Char → Prop where
  | null {depth : Nat} : Spells depth (.ok .null) ['n', 'u', 'l', 'l']
  | yes {depth : Nat} : Spells depth (.ok (.bool true)) ['t', 'r', 'u', 'e']
  | no {depth : Nat} : Spells depth (.ok (.bool false)) ['f', 'a', 'l', 's', 'e']
  | number {depth : Nat} (n : Numeral) : Spells depth (n.value.map .number) n.text
  | text {depth : Nat} {s : String} {name : List Char} : Literal s.toList name →
      Spells depth (.ok (.text s)) ('"' :: (name ++ ['"']))
  | emptyList {depth : Nat} (gap : Gap) :
      Spells (depth + 1) (.ok (.list [])) ('[' :: (gap.chars ++ [']']))
  | list {depth : Nat} {first : Item} {others : List Item} :
      (∀ i ∈ first :: others, Spells depth i.reading i.text) →
      Spells (depth + 1) (((first :: others).mapM Item.reading).map .list)
        ('[' :: (first.written ++ others.flatMap (fun i => ',' :: i.written) ++ [']']))
  | emptyObject {depth : Nat} (gap : Gap) :
      Spells (depth + 1) (.ok (.object [])) ('{' :: (gap.chars ++ ['}']))
  | object {depth : Nat} {first : Entry} {others : List Entry} :
      (∀ e ∈ first :: others, Spells depth e.item.reading e.item.text) →
      Spells (depth + 1) (((first :: others).mapM Entry.reading).map .object)
        ('{' :: (first.written ++ others.flatMap (fun e => ',' :: e.written) ++ ['}']))

namespace Gap

def empty : Gap := ⟨[], List.forall_mem_nil _⟩

/-- One gap after the other. -/
def join (g h : Gap) : Gap :=
  ⟨g.chars ++ h.chars, fun c member => (List.mem_append.mp member).elim (g.space c) (h.space c)⟩

theorem skip (g : Gap) (cs : List Char) : skipSpace (g.chars ++ cs) = skipSpace cs :=
  List.dropWhile_append_of_pos g.space

theorem skip_cons (g : Gap) {c : Char} (cs : List Char) (visible : isSpace c = false) :
    skipSpace (g.chars ++ c :: cs) = c :: cs :=
  (g.skip _).trans (skipSpace_cons visible)

theorem ends (g : Gap) {rest : List Char} (ends : EndsNumber rest) :
    EndsNumber (g.chars ++ rest) := by
  cases chars : g.chars with
  | nil => exact ends
  | cons c cs =>
    intro d first
    cases Option.some.inj first
    have space := g.space c (chars ▸ List.mem_cons_self)
    simp only [isSpace, Bool.or_eq_true, beq_iff_eq] at space
    rcases space with ((rfl | rfl) | rfl) | rfl <;> decide

end Gap

theorem skipSpace_skipSpace (cs : List Char) : skipSpace (skipSpace cs) = skipSpace cs :=
  List.dropWhile_idempotent isSpace cs

theorem readValue_skipSpace (depth : Nat) (cs : List Char) :
    readValue depth (skipSpace cs) = readValue depth cs := by
  rw [readValue.eq_def, skipSpace_skipSpace, ← readValue.eq_def]

theorem readValue_gap (depth : Nat) (g : Gap) (cs : List Char) :
    readValue depth (g.chars ++ cs) = readValue depth cs := by
  rw [← readValue_skipSpace, g.skip, readValue_skipSpace]

theorem readColon_gap (g : Gap) (cs : List Char) : readColon (g.chars ++ ':' :: cs) = .ok cs := by
  rw [readColon, g.skip_cons _ rfl]
  rfl

/-- What a reader makes of a text behind white space and in front of anything that does not carry on
a number. -/
def ComesTo {α : Type} (read : Reader α) (text : List Char) (r : Except Fault α) : Prop :=
  ∀ (g : Gap) (rest : List Char), EndsNumber rest →
    read (g.chars ++ (text ++ rest)) = r.map (·, rest)

theorem ComesTo.alone {α : Type} {read : Reader α} {text rest : List Char} {r : Except Fault α}
    (h : ComesTo read text r) (ends : EndsNumber rest) : read (text ++ rest) = r.map (·, rest) :=
  h .empty rest ends

theorem comesTo_readValue {depth : Nat} {text : List Char} {r : Except Fault Value}
    (read : ∀ {rest}, EndsNumber rest → readValue depth (text ++ rest) = r.map (·, rest)) :
    ComesTo (readValue depth) text r := fun g _ ends => (readValue_gap depth g _).trans (read ends)

theorem digit_not_space {c : Char} (digit : c.isDigit = true) :
    isSpace c = false ∧ c ≠ ']' ∧ c ≠ ',' := by
  have other : ∀ d : Char, d.isDigit = false → c ≠ d := by
    rintro d none rfl
    exact Bool.false_ne_true (none.symm.trans digit)
  refine ⟨?_, other ']' (by decide), other ',' (by decide)⟩
  simp [isSpace, other ' ' (by decide), other '\t' (by decide), other '\n' (by decide),
    other '\r' (by decide)]

theorem ends_of_sign {c : Char} (rest : List Char) (sign : c = ',' ∨ c = ']' ∨ c = '}') :
    EndsNumber (c :: rest) := by
  intro d h
  cases Option.some.inj h
  rcases sign with rfl | rfl | rfl <;> decide

/-- A number begins with its sign or with a digit. -/
theorem Numeral.text_cases (n : Numeral) :
    (n.negative = true ∧ n.text = '-' :: n.body) ∨
      ∃ c cs, c.isDigit = true ∧ n.negative = false ∧ n.body = c :: cs ∧ n.text = c :: cs := by
  unfold Numeral.text
  cases n.negative with
  | true => exact .inl ⟨rfl, rfl⟩
  | false =>
    obtain ⟨c, cs, digits⟩ := List.exists_cons_of_ne_nil n.whole.nonempty
    have digit : c.isDigit = true := n.whole.digit c (digits ▸ List.mem_cons_self)
    have begins : n.body = c :: (cs ++ (n.fractionText ++ n.scale)) := by
      rw [body, digits, List.cons_append]
    exact .inr ⟨c, _, digit, rfl, begins, begins⟩

/-- What follows the sign, or all if there is no sign, is read to its end. -/
theorem Numeral.text_read (n : Numeral) {rest : List Char} (ends : EndsNumber rest) :
    (∃ cs, n.text = '-' :: cs ∧ readNumber true (cs ++ rest) = n.value.map (·, rest)) ∨
      ∃ c cs, c.isDigit = true ∧ n.text = c :: cs ∧
        readNumber false (c :: (cs ++ rest)) = n.value.map (·, rest) := by
  have read := n.read_body ends
  rcases n.text_cases with ⟨negative, text⟩ | ⟨c, cs, digit, positive, body, text⟩
  · rw [negative] at read
    exact .inl ⟨n.body, text, read⟩
  · rw [positive, body] at read
    exact .inr ⟨c, cs, digit, text, read⟩

theorem readValue_numeral (depth : Nat) (n : Numeral) {rest : List Char} (ends : EndsNumber rest) :
    readValue depth (n.text ++ rest) = (n.value.map .number).map (·, rest) := by
  rcases n.text_read ends with ⟨cs, text, read⟩ | ⟨c, cs, digit, text, read⟩
  · rw [text, List.cons_append, readValue_minus depth (skipSpace_cons rfl), read]
    cases n.value <;> rfl
  · rw [text, List.cons_append,
      readValue_digit depth (skipSpace_cons (digit_not_space digit).1) digit, read]
    cases n.value <;> rfl

namespace Spells

variable {depth : Nat} {r : Except Fault Value} {cs rest : List Char}

theorem begins (h : Spells depth r cs) :
    ∃ c tail, cs = c :: tail ∧ isSpace c = false ∧ c ≠ ']' ∧ c ≠ ',' := by
  cases h with
  | number n =>
    rcases n.text_cases with ⟨_, text⟩ | ⟨c, cs, digit, _, _, text⟩
    · exact ⟨'-', _, text, rfl, by decide, by decide⟩
    · exact ⟨c, cs, text, digit_not_space digit⟩
  | null => exact ⟨_, _, rfl, rfl, by decide, by decide⟩
  | yes => exact ⟨_, _, rfl, rfl, by decide, by decide⟩
  | no => exact ⟨_, _, rfl, rfl, by decide, by decide⟩
  | text _ => exact ⟨_, _, rfl, rfl, by decide, by decide⟩
  | emptyList _ => exact ⟨_, _, rfl, rfl, by decide, by decide⟩
  | list _ => exact ⟨_, _, rfl, rfl, by decide, by decide⟩
  | emptyObject _ => exact ⟨_, _, rfl, rfl, by decide, by decide⟩
  | object _ => exact ⟨_, _, rfl, rfl, by decide, by decide⟩

theorem item_begins {i : Item} (h : Spells depth r i.text) (more : List Char) :
    ∃ c tail, skipSpace (i.written ++ more) = c :: tail ∧ c ≠ ']' ∧ c ≠ ',' := by
  obtain ⟨c, tail, text, visible, begins⟩ := h.begins
  refine ⟨c, tail ++ (i.after.chars ++ more), ?_, begins⟩
  simp only [Item.written, List.append_assoc]
  rw [text, List.cons_append]
  exact i.before.skip_cons _ visible

/-- Where a reader comes to a value of its own on each spelling, it reads the items of a list. -/
theorem item_reads {α : Type} {item : Reader α} {result : Item → Except Fault α} {i : Item}
    (spelled : Spells depth r i.text) (read : ComesTo item i.text (result i)) :
    ItemReads item Item.written result i := by
  intro c tail sign
  obtain ⟨d, ds, text, visible, begins⟩ := spelled.begins
  have stays : isSpace c = false := sign_not_space sign rfl
  refine ⟨d, ds ++ (i.after.chars ++ c :: tail), i.after.chars ++ c :: tail, ?_, begins.1, ?_, ?_⟩
  · simp only [Item.written, List.append_assoc]
    rw [i.before.skip, text, List.cons_append, skipSpace_cons visible]
  · exact i.after.skip_cons _ stays
  · have ends := i.after.ends (ends_of_sign tail (sign.imp_right .inl))
    rw [← List.cons_append, ← text]
    exact read.alone ends

theorem entry_reads {κ σ : Type} {key : Reader κ} {entry : σ → κ → Reader σ}
    {step : σ → Entry → Except Fault σ} {e : Entry} {k : κ}
    (named : ∀ left, key (e.name ++ '"' :: left) = .ok (k, left))
    (value : ∀ s rest, EndsNumber rest →
      entry s k (e.between.chars ++ ':' :: (e.item.before.chars ++ (e.item.text ++ rest))) =
        (step s e).map (·, rest)) :
    EntryReads key entry Entry.written step e := by
  intro s c tail sign
  have stays : isSpace c = false := sign_not_space sign rfl
  refine ⟨_, k, e.between.chars ++ ':' :: (e.item.written ++ c :: tail),
    e.item.after.chars ++ c :: tail, ?_, named _, ?_, ?_⟩
  · simp only [Entry.written, List.append_assoc, List.cons_append]
    exact e.before.skip_cons _ rfl
  · exact e.item.after.skip_cons _ stays
  · simp only [Item.written, List.append_assoc]
    exact value s _ (e.item.after.ends (ends_of_sign tail (sign.imp_right .inr)))

theorem readEntryValue_spelled {read : Reader Value} {e : Entry}
    (item : ComesTo read e.item.text e.item.reading) (es : List (String × Value)) (rest : List Char)
    (ends : EndsNumber rest) :
    readEntryValue read es e.key
        (e.between.chars ++ ':' :: (e.item.before.chars ++ (e.item.text ++ rest))) =
      (e.reading.map (· :: es)).map (·, rest) := by
  rw [readEntryValue, readColon_gap]
  change (read _ >>= _) = _
  rw [item _ rest ends, Entry.reading]
  cases e.item.reading <;> rfl

theorem entries_foldlM (es : List Entry) (before : List (String × Value)) :
    es.foldlM (fun es e => e.reading.map (· :: es)) before =
      (es.mapM Entry.reading).map (·.reverse ++ before) := by
  induction es generalizing before with
  | nil => rfl
  | cons e es ih =>
    rw [List.foldlM_cons, List.mapM_cons]
    cases e.reading with
    | error fault => rfl
    | ok pair =>
      refine (ih (pair :: before)).trans ?_
      change _ = ((es.mapM Entry.reading >>= fun pairs => .ok (pair :: pairs)).map _)
      cases es.mapM Entry.reading with
      | error fault => rfl
      | ok pairs => simp [Except.map, bind, Except.bind]

/-- Every spelling is read to its end. Only a number has to see what follows it to know its end. -/
theorem read (h : Spells depth r cs) (rest : List Char)
    (ends : ∀ n : Numeral, cs = n.text → EndsNumber rest) :
    readValue depth (cs ++ rest) = r.map (·, rest) := by
  induction h generalizing rest with
  | null => rw [readValue.eq_def]; rfl
  | yes => rw [readValue.eq_def]; rfl
  | no => rw [readValue.eq_def]; rfl
  | number n => exact readValue_numeral _ n (ends n rfl)
  | text name =>
    rw [List.cons_append, readValue_text _ (skipSpace_cons rfl), List.append_assoc,
      List.singleton_append, readText_literal name]
    rfl
  | emptyList gap =>
    rw [List.cons_append, readValue_list _ (skipSpace_cons rfl), List.append_assoc,
      List.singleton_append, readItems_close _ _ (gap.skip_cons _ rfl)]
    rfl
  | emptyObject gap =>
    rw [List.cons_append, readValue_object _ (skipSpace_cons rfl), List.append_assoc,
      List.singleton_append, readEntries_close _ _ _ _ (gap.skip_cons _ rfl)]
    rfl
  | list spelled ih =>
    have items := readItems_spelled readFaults (fun i member =>
      item_reads (spelled i member) (comesTo_readValue fun ends => ih i member _ fun _ _ => ends))
      rest
    rw [List.cons_append, readValue_list _ (skipSpace_cons rfl), List.append_assoc,
      List.singleton_append, items]
    cases List.mapM Item.reading _ <;> rfl
  | object spelled ih =>
    have entries := readEntries_spelled readFaults (fun e member =>
      entry_reads (readText_literal e.named) (readEntryValue_spelled
        (comesTo_readValue fun ends => ih e member _ fun _ _ => ends))) [] rest
    rw [List.cons_append, readValue_object _ (skipSpace_cons rfl), List.append_assoc,
      List.singleton_append, entries, entries_foldlM]
    cases List.mapM Entry.reading _ with
    | error fault => rfl
    | ok pairs => simp [Except.map, bind, Except.bind, pure, Except.pure]

theorem read_whole {v : Value} (h : Spells depth (.ok v) cs) :
    readValue depth cs = .ok (v, []) := by
  have read := h.read [] fun _ _ => endsNumber_nil
  rw [List.append_nil] at read
  exact read

end Spells

/-- Values that are written as JSON: their numbers are integers, and lists and objects are nested at
most so deep. -/
inductive Writable : Nat → Value → Prop where
  | null {depth : Nat} : Writable depth .null
  | bool {depth : Nat} (b : Bool) : Writable depth (.bool b)
  | whole {depth : Nat} (n : Int) : Writable depth (.number (.whole n))
  | text {depth : Nat} (s : String) : Writable depth (.text s)
  | list {depth : Nat} {vs : List Value} : (∀ v ∈ vs, Writable depth v) →
      Writable (depth + 1) (.list vs)
  | object {depth : Nat} {es : List (String × Value)} : (∀ e ∈ es, Writable depth e.2) →
      Writable (depth + 1) (.object es)

mutual

/-- What is read of a value once it was written. An integer that 64 bits do not carry comes back as
a double, or is a fault. -/
def Value.reread : Value → Except Fault Value
  | .number (.whole n) => (Numeral.ofInt n).value.map .number
  | .list items => (rereadItems items).map .list
  | .object entries => (rereadEntries entries).map .object
  | v => .ok v

def rereadItems : List Value → Except Fault (List Value)
  | [] => .ok []
  | v :: vs => do return (← v.reread) :: (← rereadItems vs)

def rereadEntries : List (String × Value) → Except Fault (List (String × Value))
  | [] => .ok []
  | (k, v) :: es => do return (k, ← v.reread) :: (← rereadEntries es)

end

theorem compactItems_cons (v : Value) (vs : List Value) :
    compactItems (v :: vs) = v.compact ++ vs.flatMap fun v => ',' :: v.compact := by
  induction vs generalizing v with
  | nil => simp [compactItems]
  | cons w ws ih =>
    rw [compactItems, ih, List.flatMap_cons, List.cons_append]
    exact List.cons_ne_nil w ws

theorem compactEntries_cons (e : String × Value) (es : List (String × Value)) :
    compactEntries (e :: es) = (writeText e.1 ++ ':' :: e.2.compact) ++
      es.flatMap fun e => ',' :: (writeText e.1 ++ ':' :: e.2.compact) := by
  induction es generalizing e with
  | nil => simp [compactEntries]
  | cons f fs ih =>
    rw [compactEntries, ih, List.flatMap_cons]
    · simp
    · exact List.cons_ne_nil f fs

/-- An item without white space. -/
def Item.close (reading : Except Fault Value) (text : List Char) : Item :=
  ⟨.empty, reading, text, .empty⟩

theorem Item.close_written (reading : Except Fault Value) (text : List Char) :
    (close reading text).written = text := by
  simp [close, written, Gap.empty]

/-- An entry without white space whose key is written as texts are. -/
def Entry.close (key : String) (reading : Except Fault Value) (text : List Char) : Entry :=
  ⟨.empty, key, key.toList.flatMap escapeChar, literal_escaped _, .empty, .close reading text⟩

theorem Entry.close_written (key : String) (reading : Except Fault Value) (text : List Char) :
    (close key reading text).written = writeText key ++ ':' :: text := by
  simp [close, written, Item.close_written, Gap.empty, writeText]

theorem rereadItems_eq (vs : List Value) :
    rereadItems vs = (vs.map fun v => Item.close v.reread v.compact).mapM Item.reading := by
  induction vs with
  | nil => rfl
  | cons v vs ih => simp [rereadItems, ih, Item.close]

theorem rereadEntries_eq (es : List (String × Value)) :
    rereadEntries es =
      (es.map fun e => Entry.close e.1 e.2.reread e.2.compact).mapM Entry.reading := by
  induction es with
  | nil => rfl
  | cons e es ih =>
    simp only [rereadEntries, ih, List.map_cons, List.mapM_cons, Entry.reading, Entry.close,
      Item.close]
    cases e.2.reread <;> rfl

namespace Spells

variable {depth : Nat}

theorem whole (n : Int) : Spells depth (Value.number (.whole n)).reread (Text.integer n) := by
  have number : Spells depth _ _ := .number (Numeral.ofInt n)
  rw [Numeral.ofInt_text] at number
  exact number

theorem compact_list {vs : List Value} (each : ∀ v ∈ vs, Spells depth v.reread v.compact) :
    Spells (depth + 1) (Value.list vs).reread (Value.list vs).compact := by
  cases vs with
  | nil => exact .emptyList .empty
  | cons v vs =>
    have items : ∀ i ∈ (v :: vs).map fun v => Item.close v.reread v.compact,
        Spells depth i.reading i.text := by
      intro i member
      obtain ⟨w, inside, rfl⟩ := List.mem_map.mp member
      exact each w inside
    have list := Spells.list items
    rw [Item.close_written, List.flatMap_map] at list
    simp only [Item.close_written] at list
    rw [Value.reread, rereadItems_eq, Value.compact, compactItems_cons]
    exact list

theorem compact_object {es : List (String × Value)}
    (each : ∀ e ∈ es, Spells depth e.2.reread e.2.compact) :
    Spells (depth + 1) (Value.object es).reread (Value.object es).compact := by
  cases es with
  | nil => exact .emptyObject .empty
  | cons e es =>
    have entries : ∀ f ∈ (e :: es).map fun e => Entry.close e.1 e.2.reread e.2.compact,
        Spells depth f.item.reading f.item.text := by
      intro f member
      obtain ⟨g, inside, rfl⟩ := List.mem_map.mp member
      exact each g inside
    have object := Spells.object entries
    rw [Entry.close_written, List.flatMap_map] at object
    simp only [Entry.close_written] at object
    rw [Value.reread, rereadEntries_eq, Value.compact, compactEntries_cons]
    exact object

end Spells

/-- Writing a value is a way to spell it. -/
theorem Writable.spelled {depth : Nat} {v : Value} (h : Writable depth v) :
    Spells depth v.reread v.compact := by
  induction h with
  | null => exact .null
  | bool b => cases b; exacts [.no, .yes]
  | whole n => exact .whole n
  | text s => exact .text (literal_escaped s.toList)
  | list _ ih => exact .compact_list ih
  | object _ ih => exact .compact_object ih

theorem readValue_compact {depth : Nat} {v : Value} (h : Writable depth v) {rest : List Char}
    (ends : EndsNumber rest) : readValue depth (v.compact ++ rest) = v.reread.map (·, rest) :=
  h.spelled.read _ fun _ _ => ends

end DropLedger.Json
