import DropLedger.Proofs.Json.Agreement

/-! Reading a layout straight and decoding it from a value. Both take the fields in the same order,
so both come to the same, for a list as well as for an object. -/
namespace DropLedger.Json

namespace Layout

variable {σ α : Type} {depth : Nat} {fields : List (Field σ)}

theorem closeRow_end {cs rest : List Char} (close : skipSpace cs = ']' :: rest) :
    closeRow cs = .ok rest := by
  simp only [closeRow, close]

theorem closeRow_more {cs tail rest : List Char} {c : Char} (comma : skipSpace cs = ',' :: tail)
    (next : skipSpace tail = c :: rest) (item : c ≠ ']') : closeRow cs = .error .trailingText := by
  simp only [closeRow, comma, next]
  split <;> simp_all

theorem closeRow_other {cs tail : List Char} {c : Char} (start : skipSpace cs = c :: tail)
    (item : c ≠ ']') (comma : c ≠ ',') : closeRow cs = .error .trailingText := by
  simp only [closeRow, start]
  split <;> simp_all

section Row

variable (expected : String)

theorem readRow_first (s : σ) (field : Field σ) (fields : List (Field σ)) (index : Nat)
    {cs tail : List Char} {c : Char} (start : skipSpace cs = c :: tail) (item : c ≠ ']') :
    readRow expected index true s (field :: fields) cs = (do
      let (update, rest) ← field.decoder.read (c :: tail)
      readRow expected (index + 1) false (update s) fields rest) := by
  simp only [readRow, start]
  split <;> simp_all

theorem readRow_next (s : σ) (field : Field σ) (fields : List (Field σ)) (index : Nat)
    {cs tail : List Char} (start : skipSpace cs = ',' :: tail) :
    readRow expected index false s (field :: fields) cs = (do
      let (update, rest) ← afterListComma readFaults field.decoder.read tail
      readRow expected (index + 1) false (update s) fields rest) := by
  simp [readRow, start]

theorem readRow_end (s : σ) (field : Field σ) (fields : List (Field σ)) (index : Nat) (first : Bool)
    {cs rest : List Char} (close : skipSpace cs = ']' :: rest) :
    readRow expected index first s (field :: fields) cs =
      if field.required then .error (.wrongLength index expected)
      else readRow expected (index + 1) first s fields (']' :: rest) := by
  simp only [readRow, close]

/-- Where a list ends, the fields that are left may not be required. -/
theorem readRow_close (s : σ) (fields : List (Field σ)) (index : Nat) (first : Bool) :
    ∃ r : Except Fault σ, r.toOption = rowOfValues s fields [] ∧
      ∀ {cs rest}, skipSpace cs = ']' :: rest →
        readRow expected index first s fields cs = r.map (·, rest) := by
  induction fields generalizing index with
  | nil =>
    refine ⟨.ok s, rfl, ?_⟩
    intro cs rest close
    rw [readRow, closeRow_end close]
    rfl
  | cons field fields ih =>
    by_cases required : field.required = true
    · refine ⟨.error (.wrongLength index expected), by simp [rowOfValues, required]; rfl, ?_⟩
      intro cs rest close
      rw [readRow_end expected s field fields index first close, if_pos required]
      rfl
    · obtain ⟨r, same, reads⟩ := ih (index + 1)
      refine ⟨r, by simp [rowOfValues, required, same], ?_⟩
      intro cs rest close
      rw [readRow_end expected s field fields index first close, if_neg required]
      exact reads (skipSpace_cons rfl)

/-- An item comes to something before the text behind it is known, and then the other fields are
read. -/
theorem settle_item {field : Field σ} {i : Item} {v : Value} {items : List Item} {vs : List Value}
    (s : σ) (index : Nat)
    (same : (outcome field.decoder.read i.text).toOption = field.decoder.ofValue v)
    (more : ∀ update : σ → σ, ∃ r : Except Fault σ,
      r.toOption = rowOfValues (update s) fields vs ∧ ∀ {cs rest},
        skipSpace cs = items.flatMap (fun i => ',' :: i.written) ++ ']' :: rest →
          readRow expected index false (update s) fields cs = r.map (·, rest)) :
    ∃ r : Except Fault σ, r.toOption = rowOfValues s (field :: fields) (v :: vs) ∧ ∀ {cs rest},
      skipSpace cs = items.flatMap (fun i => ',' :: i.written) ++ ']' :: rest →
        (do
          let (update, rest) ← (outcome field.decoder.read i.text).map (·, cs)
          readRow expected index false (update s) fields rest) = r.map (·, rest) := by
  cases updated : outcome field.decoder.read i.text with
  | error fault =>
    rw [updated] at same
    refine ⟨.error fault, ?_, fun _ => rfl⟩
    rw [rowOfValues, ← same]
    rfl
  | ok update =>
    rw [updated] at same
    obtain ⟨r, row, reads⟩ := more update
    refine ⟨r, ?_, fun left => reads left⟩
    rw [rowOfValues, ← same]
    exact row

/-- After an item, the other items are read into the fields that are left. -/
theorem readRow_more (agree : ∀ f ∈ fields, f.decoder.Agrees) {items : List Item} {vs : List Value}
    (spell : ItemsSpell depth items vs) (s : σ) (index : Nat) :
    ∃ r : Except Fault σ, r.toOption = rowOfValues s fields vs ∧ ∀ {cs rest},
      skipSpace cs = items.flatMap (fun i => ',' :: i.written) ++ ']' :: rest →
        readRow expected index false s fields cs = r.map (·, rest) := by
  induction fields generalizing items vs s index with
  | nil =>
    cases spell with
    | nil => exact readRow_close expected s [] index false
    | @cons i v items vs spelled _ =>
      refine ⟨.error .trailingText, rfl, ?_⟩
      intro cs rest start
      obtain ⟨c, tail, next, item, _⟩ := spelled.item_begins
        (items.flatMap (fun i => ',' :: i.written) ++ ']' :: rest)
      rw [List.flatMap_cons, List.append_assoc, List.cons_append] at start
      rw [readRow, closeRow_more start next item]
      rfl
  | cons field fields ih =>
    cases spell with
    | nil => exact readRow_close expected s (field :: fields) index false
    | @cons i v items vs spelled others =>
      obtain ⟨here, later⟩ := List.forall_mem_cons.mp agree
      obtain ⟨r, same, reads⟩ := settle_item expected s (index + 1) (here.same spelled)
        fun update => ih later others (update s) (index + 1)
      refine ⟨r, same, ?_⟩
      intro cs rest start
      obtain ⟨sign, tail, next, which⟩ := next_sign Item.written items ']' rest
      obtain ⟨d, ds, after, front, begins, left, read⟩ :=
        Decoder.item_read here spelled sign tail which
      rw [List.flatMap_cons, List.append_assoc, next, List.cons_append] at start
      rw [readRow_next expected s field fields index start,
        afterListComma_next readFaults _ front begins, read]
      exact reads (left.trans next.symm)

/-- A list with items, after its opening bracket. -/
theorem readRow_items (agree : ∀ f ∈ fields, f.decoder.Agrees) {i : Item} {items : List Item}
    {vs : List Value} (spell : ItemsSpell depth (i :: items) vs) (s : σ) (index : Nat) :
    ∃ r : Except Fault σ, r.toOption = rowOfValues s fields vs ∧ ∀ rest,
      readRow expected index true s fields
        (i.written ++ items.flatMap (fun i => ',' :: i.written) ++ ']' :: rest) =
          r.map (·, rest) := by
  cases spell with
  | @cons _ v _ vs spelled others =>
    cases fields with
    | nil =>
      refine ⟨.error .trailingText, rfl, fun rest => ?_⟩
      obtain ⟨c, tail, next, item, comma⟩ := spelled.item_begins
        (items.flatMap (fun i => ',' :: i.written) ++ ']' :: rest)
      rw [readRow, List.append_assoc, closeRow_other next item comma]
      rfl
    | cons field fields =>
      obtain ⟨here, later⟩ := List.forall_mem_cons.mp agree
      obtain ⟨r, same, reads⟩ := settle_item expected s (index + 1) (here.same spelled)
        fun update => readRow_more expected later others (update s) (index + 1)
      refine ⟨r, same, fun rest => ?_⟩
      obtain ⟨sign, tail, next, which⟩ := next_sign Item.written items ']' rest
      obtain ⟨d, ds, after, front, begins, left, read⟩ :=
        Decoder.item_read here spelled sign tail which
      rw [List.append_assoc, next, readRow_first expected s field fields index front begins, read]
      exact reads (left.trans next.symm)

end Row

/-- What an entry of an object does to the fields read so far. -/
def step (fields : List (Field σ)) (s : σ) (e : Entry) : Except Fault σ :=
  match fields.find? (·.name == e.key) with
  | some field =>
    if field.given s then .error (.duplicateField e.key)
    else (outcome field.decoder.read e.item.text).map fun update => update s
  | none => .ok s

theorem readEntry_spelled (agree : ∀ f ∈ fields, f.decoder.Agrees) {e : Entry} {v : Value}
    (spelled : Spells depth (.ok v) e.item.text) (s : σ) (rest : List Char)
    (ends : EndsNumber rest) :
    readEntry fields s e.key
        (e.between.chars ++ ':' :: (e.item.before.chars ++ (e.item.text ++ rest))) =
      (step fields s e).map (·, rest) := by
  unfold readEntry step
  rw [readColon_gap]
  cases found : fields.find? (·.name == e.key) with
  | none =>
    change (skipValue _ >>= _) = _
    rw [spelled.skipValue e.item.before _ ends]
    rfl
  | some field =>
    dsimp only
    by_cases given : field.given s = true
    · rw [if_pos given, if_pos given]
      rfl
    · have reads := (agree field (List.mem_of_find?_eq_some found)).reads spelled
      rw [if_neg given, if_neg given]
      change (field.decoder.read _ >>= _) = _
      rw [reads e.item.before _ ends]
      cases outcome field.decoder.read e.item.text <;> rfl

theorem step_agrees (agree : ∀ f ∈ fields, f.decoder.Agrees) {e : Entry} {p : String × Value}
    (key : e.key = p.1) (spelled : Spells depth (.ok p.2) e.item.text) (s : σ) :
    (step fields s e).toOption = entryOfValue fields s p := by
  unfold step entryOfValue
  rw [key]
  cases found : fields.find? (·.name == p.1) with
  | none => rfl
  | some field =>
    dsimp only
    by_cases given : field.given s = true
    · rw [if_pos given, if_pos given]
      rfl
    · rw [if_neg given, if_neg given, toOption_map,
        (agree field (List.mem_of_find?_eq_some found)).same spelled]

theorem entries_agree (agree : ∀ f ∈ fields, f.decoder.Agrees) {entries : List Entry}
    {es : List (String × Value)} (spell : EntriesSpell depth entries es) (s : σ) :
    (entries.foldlM (step fields) s).toOption = es.foldlM (entryOfValue fields) s := by
  induction spell generalizing s with
  | nil => rfl
  | cons entry _ ih =>
    rw [List.foldlM_cons, List.foldlM_cons, toOption_bind, step_agrees agree entry.1 entry.2]
    exact congrArg _ (funext ih)

theorem entries_read (agree : ∀ f ∈ fields, f.decoder.Agrees) {entries : List Entry}
    {es : List (String × Value)} (spell : EntriesSpell depth entries es) :
    ∀ e ∈ entries, EntryReads readText (readEntry fields) Entry.written (step fields) e := by
  induction spell with
  | nil => exact nofun
  | @cons e _ _ _ entry _ ih =>
    refine List.forall_mem_cons.mpr ⟨?_, ih⟩
    exact Spells.entry_reads (readText_literal e.named) (readEntry_spelled agree entry.2)

section Whole

variable (l : Layout σ α)

theorem close_toOption (s : σ) : (l.close s).toOption = (l.finish s).toOption := by
  unfold close
  cases l.finish s <;> rfl

variable {cs rest : List Char}

theorem decoder_list (start : skipSpace cs = '[' :: rest) :
    l.decoder.read cs = (do
      let (s, rest) ← readRow l.expected 0 true l.start l.fields rest
      return (← l.close s, rest)) := by
  simp only [decoder, start]

theorem decoder_object (start : skipSpace cs = '{' :: rest) :
    l.decoder.read cs = (do
      let (s, rest) ← readEntries readFaults readText (readEntry l.fields) l.start rest
      return (← l.close s, rest)) := by
  simp only [decoder, start]

theorem decoder_other {c : Char} (start : skipSpace cs = c :: rest) (list : c ≠ '[')
    (object : c ≠ '{') : l.decoder.read cs = .error (mismatch l.title (c :: rest)) := by
  simp only [decoder, start]
  split <;> simp_all

/-- The fields read between the opening and the closing sign, and then the end of the layout. -/
theorem decoder_comesTo {sign : Char} (visible : isSpace sign = false) {read : Reader σ}
    (start : ∀ {cs rest}, skipSpace cs = sign :: rest → l.decoder.read cs = (do
      let (s, rest) ← read rest
      return (← l.close s, rest)))
    {inner : List Char} {r : Except Fault σ}
    (reads : ∀ rest, read (inner ++ rest) = r.map (·, rest)) :
    ComesTo l.decoder.read (sign :: inner) (r >>= l.close) := by
  intro g rest _
  rw [List.cons_append, start (g.skip_cons _ visible), reads]
  cases r with
  | error fault => rfl
  | ok s =>
    change (l.close s >>= _) = (l.close s).map _
    cases l.close s <;> rfl

theorem close_same {r : Except Fault σ} {decoded : Option σ} (same : r.toOption = decoded) :
    (r >>= l.close).toOption = decoded >>= fun s => (l.finish s).toOption := by
  rw [toOption_bind, same]
  exact congrArg _ (funext l.close_toOption)

/-- Where the fields agree, the layout does. -/
theorem agrees (agree : ∀ f ∈ l.fields, f.decoder.Agrees) : l.decoder.Agrees := by
  apply Decoder.Agrees.of_comesTo
  intro depth v text spelled
  cases v with
  | list vs =>
    rcases spelled.list_form with ⟨rfl, gap, rfl⟩ | ⟨depth, first, others, rfl, items⟩
    · obtain ⟨r, same, reads⟩ := readRow_close l.expected l.start l.fields 0 true
      refine ⟨_, l.decoder_comesTo rfl l.decoder_list fun rest => ?_, l.close_same same⟩
      refine reads ?_
      rw [List.append_assoc]
      exact gap.skip_cons _ rfl
    · obtain ⟨r, same, reads⟩ := readRow_items l.expected agree items l.start 0
      refine ⟨_, l.decoder_comesTo rfl l.decoder_list fun rest => ?_, l.close_same same⟩
      rw [List.append_assoc]
      exact reads rest
  | object es =>
    rcases spelled.object_form with ⟨rfl, gap, rfl⟩ | ⟨depth, first, others, rfl, entries⟩
    · refine ⟨_, l.decoder_comesTo (r := .ok l.start) rfl l.decoder_object fun rest => ?_,
        l.close_same rfl⟩
      rw [List.append_assoc]
      exact readEntries_close readFaults readText _ l.start (gap.skip_cons rest rfl)
    · refine ⟨_, l.decoder_comesTo rfl l.decoder_object fun rest => ?_,
        l.close_same (entries_agree agree entries l.start)⟩
      rw [List.append_assoc]
      exact readEntries_spelled readFaults (entries_read agree entries) l.start rest
  | _ =>
    refine ⟨_, Decoder.refuses spelled fun start sign => l.decoder_other start ?_ ?_, rfl⟩
    · rintro rfl
      simp [Value.Sign] at sign
    · rintro rfl
      simp [Value.Sign] at sign

end Whole

end Layout

end DropLedger.Json
