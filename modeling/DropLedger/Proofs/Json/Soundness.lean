import DropLedger.Proofs.Json.Spelling

/-! What is read as a JSON value is the spelling of one: nothing else gets through, and the value is
the one spelled. -/
namespace DropLedger.Json

namespace Gap

theorem front (cs : List Char) : ∃ g : Gap, cs = g.chars ++ skipSpace cs :=
  ⟨⟨cs.takeWhile isSpace, fun _ => List.mem_takeWhile_imp⟩, List.takeWhile_append_dropWhile.symm⟩

end Gap

theorem ends_at_sign {cs tail : List Char} {c : Char} (start : skipSpace cs = c :: tail)
    (sign : c = ',' ∨ c = ']' ∨ c = '}') : EndsNumber cs := by
  obtain ⟨g, front⟩ := Gap.front cs
  rw [front, start]
  exact g.ends (ends_of_sign tail sign)

/-- What stands in front of `rest` is white space and the spelling of a value. -/
def Spelled (depth : Nat) (v : Value) (cs rest : List Char) : Prop :=
  ∃ (g : Gap) (text : List Char), cs = g.chars ++ (text ++ rest) ∧ Spells depth (.ok v) text

/-- What is read is spelled, as far as numbers end where reading ends. -/
def Sound (depth : Nat) (read : Reader Value) : Prop :=
  ∀ ⦃cs v rest⦄, read cs = .ok (v, rest) → EndsNumber rest → Spelled depth v cs rest

section Items

variable {depth : Nat} {read : Reader Value} {faults : CommaFaults} {bound cs rest : List Char}
  {vs : List Value}

theorem moreItems_begins {α : Type} {item : Reader α} {as : List α}
    (ok : moreItems faults item bound cs = .ok (as, rest)) :
    ∃ c tail, skipSpace cs = c :: tail ∧ (c = ',' ∨ c = ']' ∨ c = '}') := by
  cases bound with
  | nil => cases ok
  | cons b bound =>
    rw [moreItems] at ok
    split at ok
    · cases ok
    · exact ⟨_, _, ‹_›, .inr (.inl rfl)⟩
    · exact ⟨_, _, ‹_›, .inl rfl⟩
    · cases ok

theorem afterListComma_front {α : Type} {next : Reader α} {a : α}
    (ok : afterListComma faults next cs = .ok (a, rest)) : next (skipSpace cs) = .ok (a, rest) := by
  unfold afterListComma at ok
  split at ok
  · cases ok
  · cases ok
  · exact ok

/-- The items after an item, each behind a comma. -/
theorem moreItems_sound (sound : Sound depth read)
    (ok : moreItems faults read bound cs = .ok (vs, rest)) :
    ∃ (g : Gap) (is : List Item),
      cs = g.chars ++ (is.flatMap (fun i => ',' :: i.written) ++ ']' :: rest) ∧
        is.map Item.reading = vs.map .ok ∧ ∀ i ∈ is, Spells depth i.reading i.text := by
  induction bound generalizing cs vs with
  | nil => cases ok
  | cons b bound ih =>
    obtain ⟨g, front⟩ := Gap.front cs
    rw [moreItems] at ok
    split at ok
    · cases ok
    · rename_i close
      cases ok
      exact ⟨g, [], front.trans (congrArg _ close), rfl, List.forall_mem_nil _⟩
    · rename_i tail comma
      obtain ⟨⟨v, left⟩, first, ok⟩ := bind_eq_ok.mp ok
      obtain ⟨⟨others, left'⟩, more, ok⟩ := bind_eq_ok.mp ok
      cases ok
      obtain ⟨c, tail', start, sign⟩ := moreItems_begins more
      obtain ⟨inner, text, item, spells⟩ :=
        sound (afterListComma_front first) (ends_at_sign start sign)
      obtain ⟨after, is, others, same, spelled⟩ := ih more
      obtain ⟨outer, gap⟩ := Gap.front tail
      refine ⟨g, ⟨outer.join inner, .ok v, text, after⟩ :: is, ?_, ?_, ?_⟩
      · rw [front, comma, gap, item, others]
        simp [Item.written, Gap.join]
      · simp [same]
      · exact List.forall_mem_cons.mpr ⟨spells, spelled⟩
    · cases ok

theorem readItems_sound (sound : Sound depth read)
    (ok : readItems faults read cs = .ok (vs, rest)) :
    ∃ text, cs = text ++ rest ∧ Spells (depth + 1) (.ok (.list vs)) ('[' :: text) := by
  obtain ⟨g, front⟩ := Gap.front cs
  unfold readItems at ok
  split at ok
  · cases ok
  · rename_i close
    cases ok
    refine ⟨g.chars ++ [']'], ?_, .emptyList g⟩
    rw [front, close]
    simp
  · obtain ⟨⟨v, left⟩, first, ok⟩ := bind_eq_ok.mp ok
    obtain ⟨⟨ws, left'⟩, more, ok⟩ := bind_eq_ok.mp ok
    cases ok
    obtain ⟨c, tail, start, sign⟩ := moreItems_begins more
    obtain ⟨inner, text, item, spells⟩ := sound first (ends_at_sign start sign)
    obtain ⟨after, is, others, same, spelled⟩ := moreItems_sound sound more
    let first : Item := ⟨g.join inner, .ok v, text, after⟩
    have each : ∀ i ∈ first :: is, Spells _ i.reading i.text :=
      List.forall_mem_cons.mpr ⟨spells, spelled⟩
    have values : (first :: is).mapM Item.reading = .ok (v :: ws) :=
      mapM_eq_ok.mpr (by simp [first, same])
    have list := Spells.list each
    rw [values] at list
    refine ⟨_, ?_, list⟩
    rw [front, item, others]
    simp [first, Item.written, Gap.join]

end Items

section Entries

variable {depth : Nat} {read : Reader Value} {faults : CommaFaults} {bound cs rest : List Char}
  {es fs : List (String × Value)}

theorem moreEntries_begins {κ σ : Type} {key : Reader κ} {entry : σ → κ → Reader σ} {s t : σ}
    (ok : moreEntries faults key entry bound s cs = .ok (t, rest)) :
    ∃ c tail, skipSpace cs = c :: tail ∧ (c = ',' ∨ c = ']' ∨ c = '}') := by
  cases bound with
  | nil => cases ok
  | cons b bound =>
    rw [moreEntries] at ok
    split at ok
    · cases ok
    · exact ⟨_, _, ‹_›, .inr (.inr rfl)⟩
    · exact ⟨_, _, ‹_›, .inl rfl⟩
    · cases ok

/-- An entry after the opening quote of its key, as far as the sign that follows it. -/
theorem entry_sound (sound : Sound depth read) {k : String} {left after : List Char}
    (named : readText cs = .ok (k, left)) (entry : readEntryValue read es k left = .ok (fs, after))
    (ends : EndsNumber after) :
    ∃ (v : Value) (name text : List Char) (between before : Gap), Literal k.toList name ∧
      Spells depth (.ok v) text ∧ fs = (k, v) :: es ∧
        cs = name ++ '"' :: (between.chars ++ ':' :: (before.chars ++ (text ++ after))) := by
  obtain ⟨name, literal, key⟩ := literal_of_readText named
  obtain ⟨value, colon, entry⟩ := bind_eq_ok.mp entry
  obtain ⟨⟨v, after'⟩, item, entry⟩ := bind_eq_ok.mp entry
  cases entry
  obtain ⟨before, text, front, spells⟩ := sound item ends
  obtain ⟨between, gap⟩ := Gap.front left
  have after_colon : skipSpace left = ':' :: value := by
    unfold readColon at colon
    split at colon
    · cases colon
    · rename_i start
      cases colon
      exact start
    · cases colon
  refine ⟨v, name, text, between, before, literal, spells, rfl, ?_⟩
  rw [key, gap, after_colon, front]

theorem moreEntries_sound (sound : Sound depth read)
    (ok : moreEntries faults readText (readEntryValue read) bound es cs = .ok (fs, rest)) :
    ∃ (g : Gap) (is : List Entry) (new : List (String × Value)),
      cs = g.chars ++ (is.flatMap (fun e => ',' :: e.written) ++ '}' :: rest) ∧
        is.map Entry.reading = new.map .ok ∧ fs = new.reverse ++ es ∧
          ∀ e ∈ is, Spells depth e.item.reading e.item.text := by
  induction bound generalizing cs es with
  | nil => cases ok
  | cons b bound ih =>
    obtain ⟨g, front⟩ := Gap.front cs
    rw [moreEntries] at ok
    split at ok
    · cases ok
    · rename_i close
      cases ok
      exact ⟨g, [], [], front.trans (congrArg _ close), rfl, rfl,
        List.forall_mem_nil _⟩
    · rename_i tail comma
      obtain ⟨outer, gap⟩ := Gap.front tail
      split at ok
      · cases ok
      · cases ok
      · rename_i quote
        obtain ⟨⟨k, left⟩, named, ok⟩ := bind_eq_ok.mp ok
        obtain ⟨⟨gs, after⟩, entry, more⟩ := bind_eq_ok.mp ok
        obtain ⟨c, tail', start, sign⟩ := moreEntries_begins more
        obtain ⟨v, name, text, between, before, literal, spells, rfl, key⟩ :=
          entry_sound sound named entry (ends_at_sign start sign)
        obtain ⟨behind, is, new, others, same, rfl, spelled⟩ := ih more
        refine ⟨g, ⟨outer, k, name, literal, between, before, .ok v, text, behind⟩ :: is,
          (k, v) :: new, ?_, ?_, ?_, ?_⟩
        · rw [front, comma, gap, quote, key, others]
          simp [Entry.written, Item.written]
        · simp [same, Entry.reading, Except.map]
        · simp
        · exact List.forall_mem_cons.mpr ⟨spells, spelled⟩
      · cases ok
    · cases ok

theorem readEntries_sound (sound : Sound depth read)
    (ok : readEntries faults readText (readEntryValue read) [] cs = .ok (fs, rest)) :
    ∃ text, cs = text ++ rest ∧ Spells (depth + 1) (.ok (.object fs.reverse)) ('{' :: text) := by
  obtain ⟨g, front⟩ := Gap.front cs
  unfold readEntries at ok
  split at ok
  · cases ok
  · rename_i close
    cases ok
    refine ⟨g.chars ++ ['}'], ?_, .emptyObject g⟩
    rw [front, close]
    simp
  · rename_i quote
    obtain ⟨⟨k, left⟩, named, ok⟩ := bind_eq_ok.mp ok
    obtain ⟨⟨gs, after⟩, entry, more⟩ := bind_eq_ok.mp ok
    obtain ⟨c, tail, start, sign⟩ := moreEntries_begins more
    obtain ⟨v, name, text, between, before, literal, spells, rfl, key⟩ :=
      entry_sound sound named entry (ends_at_sign start sign)
    obtain ⟨behind, is, new, others, same, rfl, spelled⟩ := moreEntries_sound sound more
    let first : Entry := ⟨g, k, name, literal, between, before, .ok v, text, behind⟩
    have each : ∀ e ∈ first :: is, Spells _ e.item.reading e.item.text :=
      List.forall_mem_cons.mpr ⟨spells, spelled⟩
    have pairs : (first :: is).mapM Entry.reading = .ok ((k, v) :: new) :=
      mapM_eq_ok.mpr (by simp [first, same, Entry.reading, Except.map])
    have object := Spells.object each
    rw [pairs] at object
    refine ⟨_, ?_, by simpa [Except.map] using object⟩
    rw [front, quote, key, others]
    simp [first, Entry.written, Item.written]
  · cases ok

end Entries

theorem number_sound {depth : Nat} {negative : Bool} {cs rest : List Char} {x : Number}
    (ok : readNumber negative cs = .ok (x, rest)) (ends : EndsNumber rest) :
    ∃ text, (if negative then '-' :: cs else cs) = text ++ rest ∧
      Spells depth (.ok (.number x)) text := by
  obtain ⟨n, rfl, rfl, value⟩ := Numeral.of_readNumber ok ends
  have spelled : Spells depth _ n.text := .number n
  rw [value] at spelled
  refine ⟨n.text, ?_, spelled⟩
  unfold Numeral.text
  split <;> rfl

/-- A value that was read, up to something that does not carry on a number, is spelled there. -/
theorem readValue_sound (depth : Nat) : Sound depth (readValue depth) := by
  induction depth using Nat.strongRecOn with
  | ind depth ih =>
    intro cs v rest ok ends
    obtain ⟨g, front⟩ := Gap.front cs
    rw [readValue.eq_def] at ok
    split at ok
    case h_1 => cases ok
    case h_2 tail start | h_3 tail start | h_4 tail start =>
      obtain ⟨left, word, ok⟩ := bind_eq_ok.mp ok
      cases ok
      rw [start, readWord_front word] at front
      first
        | exact ⟨g, _, front, .null⟩
        | exact ⟨g, _, front, .yes⟩
        | exact ⟨g, _, front, .no⟩
    case h_5 tail start =>
      obtain ⟨⟨s, left⟩, text, ok⟩ := bind_eq_ok.mp ok
      cases ok
      obtain ⟨name, literal, tail⟩ := literal_of_readText text
      refine ⟨g, _, ?_, .text literal⟩
      rw [front, start, tail]
      simp
    case h_6 tail start =>
      obtain ⟨⟨x, left⟩, number, ok⟩ := bind_eq_ok.mp ok
      cases ok
      obtain ⟨text, tail, spelled⟩ := number_sound number ends
      exact ⟨g, text, front.trans (congrArg _ (start.trans tail)), spelled⟩
    case h_7 tail start =>
      cases depth with
      | zero => cases ok
      | succ depth =>
        obtain ⟨⟨items, left⟩, list, ok⟩ := bind_eq_ok.mp ok
        cases ok
        obtain ⟨text, tail, spelled⟩ := readItems_sound (ih depth (Nat.lt_succ_self depth)) list
        refine ⟨g, _, ?_, spelled⟩
        rw [front, start, tail, List.cons_append]
    case h_8 tail start =>
      cases depth with
      | zero => cases ok
      | succ depth =>
        obtain ⟨⟨es, left⟩, object, ok⟩ := bind_eq_ok.mp ok
        cases ok
        obtain ⟨text, tail, spelled⟩ := readEntries_sound (ih depth (Nat.lt_succ_self depth)) object
        refine ⟨g, _, ?_, spelled⟩
        rw [front, start, tail, List.cons_append]
    case h_9 c tail _ _ _ _ _ _ _ start =>
      split at ok
      · obtain ⟨⟨x, left⟩, number, ok⟩ := bind_eq_ok.mp ok
        cases ok
        obtain ⟨text, tail, spelled⟩ := number_sound number ends
        exact ⟨g, text, front.trans (congrArg _ (start.trans tail)), spelled⟩
      · cases ok

theorem spells_of_read {depth : Nat} {v : Value} {cs : List Char}
    (read : readValue depth cs = .ok (v, [])) (front : skipSpace cs = cs) :
    Spells depth (.ok v) cs := by
  obtain ⟨g, text, same, spelled⟩ := readValue_sound depth read endsNumber_nil
  obtain ⟨c, tail, rfl, visible, _⟩ := spelled.begins
  rw [List.append_nil] at same
  have whole : cs = c :: tail := by
    rw [← front, same]
    exact g.skip_cons tail visible
  exact whole ▸ spelled

end DropLedger.Json
