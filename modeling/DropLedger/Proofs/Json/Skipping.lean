import DropLedger.Proofs.Json.Spelling

/-! Skipping a value. Every spelling is skipped to its end, also one whose numbers are beyond the
doubles. -/
namespace DropLedger.Json

theorem skipText_plain {c : Char} (rest : List Char) (quote : c ≠ '"') (slash : c ≠ '\\')
    (visible : ¬ c < ' ') : skipText (c :: rest) = skipText rest := by
  rw [skipText.eq_def]
  split <;> grind

theorem skipText_short {c d : Char} (rest : List Char) (long : c ≠ 'u')
    (short : shortEscape? c = some d) : skipText ('\\' :: c :: rest) = skipText rest := by
  rw [skipText.eq_def]
  split <;> grind

theorem skipText_unit {a b c d : Char} {n : Nat} (rest : List Char)
    (unit : codeUnit? a b c d = some n) :
    skipText ('\\' :: 'u' :: a :: b :: c :: d :: rest) = skipText rest := by
  rw [skipText.eq_def]
  simp only [unit]

theorem skipText_literal {cs text : List Char} (h : Literal cs text) (rest : List Char) :
    skipText (text ++ '"' :: rest) = .ok ((), rest) := by
  induction h with
  | nil =>
    rw [skipText.eq_def]
    rfl
  | plain quote slash visible _ ih => exact (skipText_plain _ quote slash visible).trans ih
  | @short c _ _ _ escape _ ih =>
    have long : c ≠ 'u' := by
      rintro rfl
      cases escape
    exact (skipText_short _ long escape).trans ih
  | unit unit _ _ _ ih => exact (skipText_unit _ unit).trans ih
  | pair first _ second _ _ ih =>
    exact (skipText_unit _ first).trans ((skipText_unit _ second).trans ih)

theorem skipExponent_eq (cs : List Char) :
    skipExponent cs =
      if ((exponentSign cs).2.takeWhile Char.isDigit).isEmpty then .error .badNumber
      else .ok ((), (exponentSign cs).2.dropWhile Char.isDigit) := by
  cases cs with
  | nil => rfl
  | cons c rest =>
    by_cases plus : c = '+'
    · subst plus
      rfl
    · by_cases minus : c = '-'
      · subst minus
        rfl
      · simp [skipExponent, exponentSign, plus, minus]

/-- Skips the exponent of a number, if there is one. -/
def skipScale (cs : List Char) : Except Fault (Unit × List Char) :=
  match cs with
  | 'e' :: rest => skipExponent rest
  | 'E' :: rest => skipExponent rest
  | _ => .ok ((), cs)

theorem skipScale_spelled (x : Option Exponent) {rest : List Char} (ends : EndsNumber rest) :
    skipScale (x.elim [] Exponent.text ++ rest) = .ok ((), rest) := by
  cases x with
  | none =>
    rw [Option.elim, List.nil_append]
    unfold skipScale
    split
    · exact absurd rfl (ends _ rfl).2.2.1
    · exact absurd rfl (ends _ rfl).2.2.2
    · rfl
  | some x =>
    have exponent : skipExponent (x.sign ++ (x.digits.chars ++ rest)) = .ok ((), rest) := by
      obtain ⟨taken, left⟩ := x.digits.span ends.no_digit
      rw [skipExponent_eq, exponentSign_written]
      dsimp only
      rw [taken, left, if_neg (by simp [x.digits.nonempty])]
    rw [Option.elim, Exponent.text, List.cons_append, List.append_assoc]
    rcases x.letter_e with small | large
    · rw [small]
      exact exponent
    · rw [large]
      exact exponent

/-- Skips what follows the first digits of a number. -/
def skipAfterDigits (cs : List Char) : Except Fault (Unit × List Char) :=
  match cs with
  | '.' :: rest =>
    if (rest.takeWhile Char.isDigit).isEmpty then .error .badNumber
    else skipScale (rest.dropWhile Char.isDigit)
  | _ => skipScale cs

theorem skipAfterDigits_plain {cs : List Char} (plain : ∀ rest, cs ≠ '.' :: rest) :
    skipAfterDigits cs = skipScale cs := by
  unfold skipAfterDigits
  split
  · exact absurd rfl (plain _)
  · rfl

theorem skipNumber_eq (cs : List Char) :
    skipNumber cs =
      match cs.takeWhile Char.isDigit with
      | [] => .error .badNumber
      | first :: more =>
        if first = '0' && !more.isEmpty then .error .badNumber
        else skipAfterDigits (cs.dropWhile Char.isDigit) := by
  unfold skipNumber
  dsimp only
  cases cs.takeWhile Char.isDigit with
  | nil => rfl
  | cons first more =>
    dsimp only
    split
    · rfl
    · generalize cs.dropWhile Char.isDigit = left
      split
      · rfl
      · exact (skipAfterDigits_plain (by assumption)).symm

theorem skipAfterDigits_spelled (n : Numeral) {rest : List Char} (ends : EndsNumber rest) :
    skipAfterDigits (n.fractionText ++ n.scale ++ rest) = .ok ((), rest) := by
  rw [List.append_assoc, Numeral.fractionText, Numeral.scale]
  cases n.fraction with
  | some ds =>
    obtain ⟨taken, left⟩ := ds.span fun c first => (scale_stops n.exponent ends c first).1
    rw [Option.elim, List.cons_append, skipAfterDigits, taken, left, if_neg (by simp [ds.nonempty])]
    exact skipScale_spelled n.exponent ends
  | none =>
    rw [Option.elim, List.nil_append, skipAfterDigits_plain]
    · exact skipScale_spelled n.exponent ends
    · intro left point
      exact absurd rfl (scale_stops n.exponent ends '.' (by rw [point]; rfl)).2

theorem skipNumber_body (n : Numeral) {rest : List Char} (ends : EndsNumber rest) :
    skipNumber (n.body ++ rest) = .ok ((), rest) := by
  obtain ⟨first, more, digits, plain, taken, left⟩ := n.body_front ends
  rw [skipNumber_eq, taken, left]
  dsimp only
  rw [if_neg plain]
  exact skipAfterDigits_spelled n ends

section Nested

variable {bound cs rest : List Char}

theorem skipNested_text (bound : List Char) (start : skipSpace cs = '"' :: rest) :
    skipNested bound cs = skipText rest := by
  rw [skipNested.eq_def, start]
  rfl

theorem skipNested_minus (bound : List Char) (start : skipSpace cs = '-' :: rest) :
    skipNested bound cs = skipNumber rest := by
  rw [skipNested.eq_def, start]
  rfl

theorem skipNested_digit (bound : List Char) {c : Char} (start : skipSpace cs = c :: rest)
    (digit : c.isDigit = true) : skipNested bound cs = skipNumber (c :: rest) := by
  have sign := digit_not_sign digit
  rw [skipNested.eq_def, start]
  split <;> simp_all

/-- The entry of an object that is skipped after its key. -/
def skipEntry (bound : List Char) (_ _ : Unit) : Reader Unit :=
  fun cs => do skipNested bound (← readColon cs)

theorem skipNested_list (b : Char) (bound : List Char) (start : skipSpace cs = '[' :: rest) :
    skipNested (b :: bound) cs = (do
      let (_, rest) ← readItems skipListFaults (skipNested bound) rest
      return ((), rest)) := by
  rw [skipNested.eq_def, start]
  rfl

theorem skipNested_object (b : Char) (bound : List Char) (start : skipSpace cs = '{' :: rest) :
    skipNested (b :: bound) cs = readEntries skipObjectFaults skipText (skipEntry bound) () rest := by
  rw [skipNested.eq_def, start]
  rfl

end Nested

theorem skipEntry_spelled {bound : List Char} {e : Entry}
    (item : ComesTo (skipNested bound) e.item.text (.ok ())) (s : Unit) (rest : List Char)
    (ends : EndsNumber rest) :
    skipEntry bound s () (e.between.chars ++ ':' :: (e.item.before.chars ++ (e.item.text ++ rest))) =
      (.ok () : Except Fault Unit).map (·, rest) := by
  unfold skipEntry
  rw [readColon_gap]
  exact item e.item.before rest ends

theorem length_le_joined {α : Type} (write : α → List Char) {first a : α} {others : List α}
    (member : a ∈ first :: others) :
    (write a).length ≤ (write first ++ others.flatMap fun b => ',' :: write b).length := by
  rcases List.mem_cons.mp member with rfl | later
  · simp
  · obtain ⟨front, back, rfl⟩ := List.append_of_mem later
    simp
    omega

theorem foldlM_unit {α : Type} (as : List α) :
    as.foldlM (fun _ _ => (.ok () : Except Fault Unit)) () = .ok () := by
  induction as with
  | nil => rfl
  | cons a as ih => exact ih

theorem skipNested_numeral (bound : List Char) (n : Numeral) :
    ComesTo (skipNested bound) n.text (.ok ()) := by
  intro g rest ends
  have number := skipNumber_body n ends
  rcases n.text_cases with ⟨_, text⟩ | ⟨c, cs, digit, _, body, text⟩
  · rw [text, List.cons_append, skipNested_minus bound (g.skip_cons _ rfl), number]
    rfl
  · rw [body, List.cons_append] at number
    rw [text, List.cons_append, skipNested_digit bound (g.skip_cons _ (digit_not_space digit).1)
      digit, number]
    rfl

theorem skipNested_items (b : Char) {bound : List Char} {first : Item} {others : List Item}
    (reads : ∀ i ∈ first :: others,
      ItemReads (skipNested bound) Item.written (fun _ => .ok ()) i) :
    ComesTo (skipNested (b :: bound))
      ('[' :: (first.written ++ others.flatMap (fun i => ',' :: i.written) ++ [']'])) (.ok ()) := by
  intro g rest _
  have units : (first :: others).mapM (fun _ => .ok ()) =
      (.ok ((first :: others).map fun _ => ()) : Except Fault (List Unit)) :=
    mapM_eq_ok.mpr (by simp)
  rw [List.cons_append, skipNested_list b bound (g.skip_cons _ rfl), List.append_assoc,
    List.singleton_append, readItems_spelled skipListFaults reads, units]
  rfl

theorem skipNested_entries (b : Char) {bound : List Char} {first : Entry} {others : List Entry}
    (reads : ∀ e ∈ first :: others,
      EntryReads skipText (skipEntry bound) Entry.written (fun _ _ => .ok ()) e) :
    ComesTo (skipNested (b :: bound))
      ('{' :: (first.written ++ others.flatMap (fun e => ',' :: e.written) ++ ['}'])) (.ok ()) := by
  intro g rest _
  rw [List.cons_append, skipNested_object b bound (g.skip_cons _ rfl), List.append_assoc,
    List.singleton_append, readEntries_spelled skipObjectFaults reads, foldlM_unit]

/-- Every spelling is skipped. -/
theorem Spells.skip {depth : Nat} {r : Except Fault Value} {cs bound : List Char}
    (h : Spells depth r cs) (enough : cs.length ≤ bound.length) :
    ComesTo (skipNested bound) cs (.ok ()) := by
  induction h generalizing bound with
  | null | yes | no =>
    intro g rest _
    rw [skipNested.eq_def, g.skip]
    rfl
  | number n => exact skipNested_numeral bound n
  | text name =>
    intro g rest _
    rw [List.cons_append, skipNested_text bound (g.skip_cons _ rfl), List.append_assoc]
    exact skipText_literal name rest
  | emptyList gap =>
    cases bound with
    | nil => simp at enough
    | cons b bound =>
      intro g rest _
      rw [List.cons_append, skipNested_list b bound (g.skip_cons _ rfl), List.append_assoc,
        List.singleton_append, readItems_close _ _ (gap.skip_cons _ rfl)]
      rfl
  | emptyObject gap =>
    cases bound with
    | nil => simp at enough
    | cons b bound =>
      intro g rest _
      rw [List.cons_append, skipNested_object b bound (g.skip_cons _ rfl), List.append_assoc,
        List.singleton_append, readEntries_close _ _ _ _ (gap.skip_cons _ rfl)]
      rfl
  | @list depth first others spelled ih =>
    cases bound with
    | nil => simp at enough
    | cons b bound =>
      refine skipNested_items b fun i member => item_reads (spelled i member) (ih i member ?_)
      have joined := length_le_joined Item.written member
      simp only [Item.written, List.length_append, List.length_cons] at joined enough
      omega
  | @object depth first others spelled ih =>
    cases bound with
    | nil => simp at enough
    | cons b bound =>
      refine skipNested_entries b fun e member =>
        entry_reads (skipText_literal e.named) (skipEntry_spelled (ih e member ?_))
      have joined := length_le_joined Entry.written member
      simp only [Entry.written, Item.written, List.length_append, List.length_cons]
        at joined enough
      omega

theorem Spells.skipValue {depth : Nat} {r : Except Fault Value} {cs : List Char}
    (h : Spells depth r cs) : ComesTo skipValue cs (.ok ()) := by
  intro g rest ends
  refine h.skip ?_ g rest ends
  simp only [List.length_append]
  omega

end DropLedger.Json
