import DropLedger.Proofs.Json.Numeral

/-! Which texts are read as an integer, and as which one. The limits decide whether a minus is a
sign, and after that only whether the integer is within them. -/
namespace DropLedger.Text
open Json (Digits)

/-- The texts of an integer: one digit or more, zeros in front included, and before them one sign at
most. Only where there are negative integers, minus is a sign. -/
inductive IntegerText (signed : Bool) : List Char → Int → Prop where
  | bare (ds : Digits) : IntegerText signed ds.chars (valueOf ds.chars)
  | plus (ds : Digits) : IntegerText signed ('+' :: ds.chars) (valueOf ds.chars)
  | minus (ds : Digits) : signed = true → IntegerText signed ('-' :: ds.chars) (-valueOf ds.chars)

/-- An integer is written as one of its texts. -/
theorem integerText_integer {signed : Bool} {n : Int} (sign : n < 0 → signed = true) :
    IntegerText signed (integer n) n := by
  let ds : Digits :=
    ⟨natural n.natAbs, fun _ => Json.natural_digits, Json.Numeral.natural_ne_nil n.natAbs⟩
  have value : valueOf ds.chars = n.natAbs := valueOf_natural n.natAbs
  unfold integer
  split
  · rename_i negative
    have text := IntegerText.minus ds (sign negative)
    have same : -((valueOf ds.chars : Nat) : Int) = n := by
      rw [value]
      omega
    rwa [same] at text
  · have text : IntegerText signed ds.chars (valueOf ds.chars) := .bare ds
    have same : ((valueOf ds.chars : Nat) : Int) = n := by
      rw [value]
      omega
    rwa [same] at text

section Reading

variable {lo hi : Int} {cs body : List Char} {negative : Bool} {b : Bounded lo hi}

theorem splitSign_digits (lo : Int) (ds : Digits) : splitSign lo ds.chars = (false, ds.chars) := by
  have bare : ∀ sign rest, ds.chars = sign :: rest → sign.isDigit = true := fun sign _ front =>
    ds.digit sign (front ▸ List.mem_cons_self)
  unfold splitSign
  split
  · rename_i front
    exact absurd (bare _ _ front) (by decide)
  · rename_i front
    exact absurd (bare _ _ front) (by decide)
  · rfl

/-- What is left behind the sign, if there is one, has to consist of digits. -/
theorem readInteger_split (split : splitSign lo cs = (negative, body)) (some : body ≠ []) :
    readInteger lo hi cs = .ok b ↔
      (∀ c ∈ body, c.isDigit = true) ∧
        b.val = if negative then -(valueOf body : Int) else valueOf body := by
  have given : ¬ cs.isEmpty = true := by
    rintro empty
    rw [List.isEmpty_iff.mp empty] at split
    cases split
    exact some rfl
  unfold readInteger
  rw [if_neg given, split]
  dsimp only
  constructor
  · intro h
    split at h
    · cases h
    · rename_i found
      split at h
      · rename_i long
        cases h
        have all : body.takeWhile Char.isDigit = body :=
          (List.takeWhile_prefix _).eq_of_length long
        rw [all] at found
        exact ⟨List.takeWhile_eq_self_iff.mp all, Bounded.ofInt?_eq_some.mp found⟩
      · cases h
  · rintro ⟨digits, value⟩
    have all : body.takeWhile Char.isDigit = body := List.takeWhile_eq_self_iff.mpr digits
    rw [all, ← value, Bounded.ofInt?_val]
    dsimp only
    rw [if_pos rfl]

theorem splitSign_some (lo : Int) (some : cs ≠ []) : (splitSign lo cs).2 ≠ [] := by
  unfold splitSign
  split
  · nofun
  · split <;> nofun
  · exact some

/-- Digits behind the sign that is taken off make a text of an integer. -/
theorem integerText_split (split : splitSign lo cs = (negative, body)) (some : body ≠ [])
    (digits : ∀ c ∈ body, c.isDigit = true) :
    IntegerText (lo < 0) cs (if negative then -(valueOf body : Int) else valueOf body) := by
  unfold splitSign at split
  split at split
  · cases split
    exact .plus ⟨_, digits, some⟩
  · split at split
    · rename_i signed
      cases split
      exact .minus ⟨_, digits, some⟩ (decide_eq_true signed)
    · cases split
      exact .bare ⟨_, digits, some⟩
  · cases split
    exact .bare ⟨_, digits, some⟩

/-- A text is read just when it is one of an integer within the limits, and as that integer. -/
theorem readInteger_eq_ok : readInteger lo hi cs = .ok b ↔ IntegerText (lo < 0) cs b.val := by
  constructor
  · intro ok
    have given : cs ≠ [] := by
      rintro rfl
      cases ok
    have some := splitSign_some lo given
    obtain ⟨digits, value⟩ := (readInteger_split rfl some).mp ok
    rw [value]
    exact integerText_split rfl some digits
  · intro text
    generalize value : b.val = n at text
    cases text with
    | bare ds =>
      exact (readInteger_split (splitSign_digits lo ds) ds.nonempty).mpr ⟨ds.digit, value⟩
    | plus ds =>
      obtain ⟨c, rest, front⟩ := List.exists_cons_of_ne_nil ds.nonempty
      have split : splitSign lo ('+' :: ds.chars) = (false, ds.chars) := by
        rw [front]
        rfl
      exact (readInteger_split split ds.nonempty).mpr ⟨ds.digit, value⟩
    | minus ds signed =>
      obtain ⟨c, rest, front⟩ := List.exists_cons_of_ne_nil ds.nonempty
      have split : splitSign lo ('-' :: ds.chars) = (true, ds.chars) := by
        rw [front]
        exact if_pos (of_decide_eq_true signed)
      exact (readInteger_split split ds.nonempty).mpr ⟨ds.digit, value⟩

end Reading

end DropLedger.Text
