import DropLedger.Proofs.Json.Number

/-! The form of a number. A number of this form is read to its end, whatever it comes to. An integer
in plain decimal comes to itself as far as 64 bits carry it, and never to another integer. -/
namespace DropLedger.Json

/-- At least one digit. -/
structure Digits where
  chars : List Char
  digit : ∀ c ∈ chars, c.isDigit = true
  nonempty : chars ≠ []

structure Exponent where
  letter : Char
  sign : List Char
  digits : Digits
  letter_e : letter = 'e' ∨ letter = 'E'
  one_sign : sign = [] ∨ sign = ['+'] ∨ sign = ['-']

/-- A number as it is written. A zero in front stands alone. -/
structure Numeral where
  negative : Bool
  whole : Digits
  fraction : Option Digits := none
  exponent : Option Exponent := none
  bare : whole.chars.head? = some '0' → whole.chars = ['0']

def Exponent.text (e : Exponent) : List Char := e.letter :: (e.sign ++ e.digits.chars)

namespace Numeral

/-- What follows the point and its digits. -/
def scale (n : Numeral) : List Char := n.exponent.elim [] Exponent.text

def fractionText (n : Numeral) : List Char := n.fraction.elim [] fun ds => '.' :: ds.chars

/-- The number without its sign. -/
def body (n : Numeral) : List Char := n.whole.chars ++ (n.fractionText ++ n.scale)

def text (n : Numeral) : List Char := if n.negative then '-' :: n.body else n.body

/-- What the number comes to. It may be beyond the doubles. -/
def value (n : Numeral) : Except Fault Number := (readNumber n.negative n.body).map (·.1)

end Numeral

/-- What is read of a text does not depend on what follows it, as long as that does not carry on a
number. -/
def Settles {α : Type} (read : Reader α) (cs : List Char) : Prop :=
  ∃ r : Except Fault α, ∀ rest, EndsNumber rest → read (cs ++ rest) = r.map (·, rest)

theorem endsNumber_nil : EndsNumber [] := nofun

theorem Settles.eq {α : Type} {read : Reader α} {cs rest : List Char} (h : Settles read cs)
    (ends : EndsNumber rest) : read (cs ++ rest) = ((read cs).map (·.1)).map (·, rest) := by
  obtain ⟨r, same⟩ := h
  have alone := same [] endsNumber_nil
  rw [List.append_nil] at alone
  rw [same rest ends, alone]
  cases r <;> rfl

theorem Digits.span (ds : Digits) {rest : List Char}
    (stop : ∀ c, rest.head? = some c → c.isDigit = false) :
    (ds.chars ++ rest).takeWhile Char.isDigit = ds.chars ∧
      (ds.chars ++ rest).dropWhile Char.isDigit = rest := by
  rw [List.takeWhile_append_of_pos ds.digit, List.dropWhile_append_of_pos ds.digit]
  cases rest with
  | nil => simp
  | cons c rest => simp [stop c rfl]

theorem EndsNumber.no_digit {rest : List Char} (ends : EndsNumber rest) (c : Char)
    (first : rest.head? = some c) : c.isDigit = false :=
  (ends c first).1

theorem exponentSign_written (e : Exponent) (rest : List Char) :
    exponentSign (e.sign ++ (e.digits.chars ++ rest)) =
      (e.sign == ['-'], e.digits.chars ++ rest) := by
  rcases e.one_sign with plain | plus | minus
  · rw [plain, List.nil_append]
    obtain ⟨d, ds, digits⟩ := List.exists_cons_of_ne_nil e.digits.nonempty
    have digit : d.isDigit = true := e.digits.digit d (digits ▸ List.mem_cons_self)
    rw [digits, List.cons_append]
    unfold exponentSign
    split
    · rename_i sign
      cases sign
      exact absurd digit (by decide)
    · rename_i sign
      cases sign
      exact absurd digit (by decide)
    · rfl
  · rw [plus]
    rfl
  · rw [minus]
    rfl

section Parts

variable (negative : Bool) (n : Nat) (e : Int)

theorem readExponent_settles (x : Exponent) :
    Settles (readExponent negative n e) (x.sign ++ x.digits.chars) := by
  refine ⟨withExponent negative n e (x.sign == ['-']) x.digits.chars, fun rest ends => ?_⟩
  obtain ⟨taken, left⟩ := x.digits.span ends.no_digit
  have nonempty : ¬ x.digits.chars.isEmpty = true := by simp [x.digits.nonempty]
  rw [List.append_assoc, readExponent_eq, exponentSign_written]
  dsimp only
  rw [taken, left, if_neg nonempty]

theorem readScaled_plain {rest : List Char} (ends : EndsNumber rest) :
    readScaled negative n e rest = (double negative n e).map (·, rest) := by
  unfold readScaled
  split
  · exact absurd rfl (ends _ rfl).2.2.1
  · exact absurd rfl (ends _ rfl).2.2.2
  · cases double negative n e <;> rfl

theorem readScaled_settles (x : Option Exponent) :
    Settles (readScaled negative n e) (x.elim [] Exponent.text) := by
  cases x with
  | none => exact ⟨double negative n e, fun rest ends => readScaled_plain negative n e ends⟩
  | some x =>
    obtain ⟨r, same⟩ := readExponent_settles negative n e x
    refine ⟨r, fun rest ends => (same rest ends).symm.trans ?_ |>.symm⟩
    rcases x.letter_e with small | large
    · simp only [Option.elim, Exponent.text, small]
      rfl
    · simp only [Option.elim, Exponent.text, large]
      rfl

theorem scale_stops (x : Option Exponent) {rest : List Char} (ends : EndsNumber rest) (c : Char)
    (first : (x.elim [] Exponent.text ++ rest).head? = some c) : c.isDigit = false ∧ c ≠ '.' := by
  cases x with
  | none => exact ⟨(ends c first).1, (ends c first).2.1⟩
  | some x =>
    cases Option.some.inj first
    rcases x.letter_e with same | same <;> rw [same] <;> decide

theorem readFraction_settles (ds : Digits) (x : Option Exponent) :
    Settles (readFraction negative n e) (ds.chars ++ x.elim [] Exponent.text) := by
  obtain ⟨r, same⟩ := readScaled_settles negative (absorb n ds.chars).1
    (e - (ds.chars.length - (absorb n ds.chars).2.length : Nat)) x
  refine ⟨r, fun rest ends => ?_⟩
  obtain ⟨taken, left⟩ := ds.span fun c first => (scale_stops x ends c first).1
  have nonempty : ¬ ds.chars.isEmpty = true := by simp [ds.nonempty]
  rw [List.append_assoc]
  unfold readFraction
  rw [taken, left, if_neg nonempty]
  exact same rest ends

end Parts

theorem afterDigits_settles (negative : Bool) (n : Nat) (left : List Char) (fraction : Option Digits)
    (x : Option Exponent) :
    Settles (afterDigits negative n left)
      (fraction.elim [] (fun ds => '.' :: ds.chars) ++ x.elim [] Exponent.text) := by
  cases fraction with
  | some ds => exact readFraction_settles negative n left.length ds x
  | none =>
    rw [Option.elim, List.nil_append]
    -- Without a point, all that counts is whether the digits ran out and whether an exponent
    -- follows.
    have scaled : ∀ rest, EndsNumber rest →
        afterDigits negative n left (x.elim [] Exponent.text ++ rest) =
          if left.isEmpty && x.isNone then .ok (integerOf negative n, rest)
          else readScaled negative n left.length (x.elim [] Exponent.text ++ rest) := by
      intro rest ends
      unfold afterDigits
      split
      · rename_i point
        exact absurd rfl (scale_stops x ends '.' (by rw [point]; rfl)).2
      · cases x with
        | none =>
          have small : rest.head? ≠ some 'e' := fun h => (ends _ h).2.2.1 rfl
          have large : rest.head? ≠ some 'E' := fun h => (ends _ h).2.2.2 rfl
          simp [small, large]
        | some x =>
          rcases x.letter_e with same | same <;> simp [Exponent.text, same]
    obtain ⟨r, same⟩ := readScaled_settles negative n left.length x
    by_cases whole : (left.isEmpty && x.isNone) = true
    · refine ⟨.ok (integerOf negative n), fun rest ends => ?_⟩
      have none : x = none := by simp_all
      rw [scaled rest ends, if_pos whole]
      subst none
      rfl
    · refine ⟨r, fun rest ends => ?_⟩
      rw [scaled rest ends, if_neg whole, same rest ends]

/-- The digits at the front of a text. -/
theorem digits_front (cs : List Char) (some : cs.takeWhile Char.isDigit ≠ []) :
    ∃ ds : Digits, ds.chars = cs.takeWhile Char.isDigit ∧
      cs = ds.chars ++ cs.dropWhile Char.isDigit :=
  ⟨⟨_, fun _ => List.mem_takeWhile_imp, some⟩, rfl, List.takeWhile_append_dropWhile.symm⟩

theorem exponentSign_front (cs : List Char) : ∃ sign : List Char,
    (sign = [] ∨ sign = ['+'] ∨ sign = ['-']) ∧ cs = sign ++ (exponentSign cs).2 := by
  unfold exponentSign
  split
  · exact ⟨['+'], .inr (.inl rfl), rfl⟩
  · exact ⟨['-'], .inr (.inr rfl), rfl⟩
  · exact ⟨[], .inl rfl, rfl⟩

section Form

variable {negative : Bool} {n : Nat} {e : Int} {left cs rest : List Char} {x : Number}

theorem readExponent_form (h : readExponent negative n e cs = .ok (x, rest)) :
    ∃ (sign : List Char) (ds : Digits), (sign = [] ∨ sign = ['+'] ∨ sign = ['-']) ∧
      cs = sign ++ (ds.chars ++ rest) := by
  obtain ⟨sign, one, front⟩ := exponentSign_front cs
  rw [readExponent_eq] at h
  split at h
  · cases h
  · rename_i some
    obtain ⟨ds, taken, body⟩ := digits_front _ (mt List.isEmpty_iff.mpr some)
    cases value : withExponent negative n e (exponentSign cs).1
        ((exponentSign cs).2.takeWhile Char.isDigit) with
    | error f =>
      rw [value] at h
      cases h
    | ok y =>
      rw [value] at h
      cases h
      exact ⟨sign, ds, one, front.trans (congrArg (sign ++ ·) body)⟩

theorem readScaled_form (h : readScaled negative n e cs = .ok (x, rest)) :
    ∃ scale : Option Exponent, cs = scale.elim [] Exponent.text ++ rest := by
  unfold readScaled at h
  split at h
  · obtain ⟨sign, ds, one, rfl⟩ := readExponent_form h
    exact ⟨some ⟨'e', sign, ds, .inl rfl, one⟩, by simp [Exponent.text]⟩
  · obtain ⟨sign, ds, one, rfl⟩ := readExponent_form h
    exact ⟨some ⟨'E', sign, ds, .inr rfl, one⟩, by simp [Exponent.text]⟩
  · obtain ⟨y, _, same⟩ := bind_eq_ok.mp h
    cases same
    exact ⟨none, rfl⟩

theorem readFraction_form (h : readFraction negative n e cs = .ok (x, rest)) :
    ∃ (ds : Digits) (scale : Option Exponent),
      cs = ds.chars ++ (scale.elim [] Exponent.text ++ rest) := by
  unfold readFraction at h
  dsimp only at h
  split at h
  · cases h
  · rename_i some
    obtain ⟨ds, _, front⟩ := digits_front _ (mt List.isEmpty_iff.mpr some)
    obtain ⟨scale, tail⟩ := readScaled_form h
    exact ⟨ds, scale, front.trans (congrArg (ds.chars ++ ·) tail)⟩

theorem afterDigits_form (h : afterDigits negative n left cs = .ok (x, rest)) :
    ∃ (fraction : Option Digits) (scale : Option Exponent),
      cs = fraction.elim [] (fun ds => '.' :: ds.chars) ++
        (scale.elim [] Exponent.text ++ rest) := by
  unfold afterDigits at h
  split at h
  · obtain ⟨ds, scale, rfl⟩ := readFraction_form h
    exact ⟨some ds, scale, rfl⟩
  · split at h
    · cases h
      exact ⟨none, none, rfl⟩
    · obtain ⟨scale, same⟩ := readScaled_form h
      exact ⟨none, scale, same⟩

/-- What is read as a number has the form of one. -/
theorem readNumber_form (h : readNumber negative cs = .ok (x, rest)) :
    ∃ m : Numeral, m.negative = negative ∧ cs = m.body ++ rest := by
  rw [readNumber_eq] at h
  split at h
  · cases h
  · rename_i first more digits
    split at h
    · cases h
    · rename_i plain
      obtain ⟨ds, taken, front⟩ := digits_front cs (by simp [digits])
      obtain ⟨fraction, scale, tail⟩ := afterDigits_form h
      have bare : ds.chars.head? = some '0' → ds.chars = ['0'] := by
        rw [taken, digits]
        intro zero
        cases Option.some.inj zero
        have alone : more = [] := by simpa using plain
        rw [alone]
      refine ⟨⟨negative, ds, fraction, scale, bare⟩, rfl, ?_⟩
      rw [front, tail]
      simp [Numeral.body, Numeral.fractionText, Numeral.scale]

end Form

namespace Numeral

/-- The first digits of a number, and what follows them. -/
theorem body_front (n : Numeral) {rest : List Char} (ends : EndsNumber rest) :
    ∃ first more, n.whole.chars = first :: more ∧ ¬ (first = '0' && !more.isEmpty) = true ∧
      (n.body ++ rest).takeWhile Char.isDigit = first :: more ∧
        (n.body ++ rest).dropWhile Char.isDigit = n.fractionText ++ n.scale ++ rest := by
  obtain ⟨first, more, digits⟩ := List.exists_cons_of_ne_nil n.whole.nonempty
  have plain : ¬ (first = '0' && !more.isEmpty) = true := by
    intro zero
    simp only [Bool.and_eq_true, decide_eq_true_eq, Bool.not_eq_true',
      List.isEmpty_eq_false_iff] at zero
    have alone := n.bare (by rw [digits, zero.1]; rfl)
    rw [digits] at alone
    exact zero.2 (List.cons.inj alone).2
  have stop : ∀ c, (n.fractionText ++ n.scale ++ rest).head? = some c → c.isDigit = false := by
    intro c start
    unfold fractionText scale at start
    cases point : n.fraction with
    | none =>
      rw [point] at start
      exact (scale_stops n.exponent ends c start).1
    | some ds =>
      rw [point] at start
      cases Option.some.inj start
      decide
  obtain ⟨taken, left⟩ := n.whole.span stop
  rw [body, List.append_assoc]
  exact ⟨first, more, digits, plain, taken.trans digits, left⟩

/-- After its first digits, a number is read as the rest of it says. -/
theorem read_whole (n : Numeral) {rest : List Char} (ends : EndsNumber rest) :
    readNumber n.negative (n.body ++ rest) =
      afterDigits n.negative (absorb 0 n.whole.chars).1 (absorb 0 n.whole.chars).2
        (n.fractionText ++ n.scale ++ rest) := by
  obtain ⟨first, more, digits, plain, taken, left⟩ := n.body_front ends
  rw [readNumber_eq, taken, left, digits]
  dsimp only
  rw [if_neg plain]

theorem settles (n : Numeral) : Settles (readNumber n.negative) n.body := by
  obtain ⟨r, same⟩ := afterDigits_settles n.negative (absorb 0 n.whole.chars).1
    (absorb 0 n.whole.chars).2 n.fraction n.exponent
  exact ⟨r, fun rest ends => (n.read_whole ends).trans (same rest ends)⟩

/-- A number is read to its end. -/
theorem read_body (n : Numeral) {rest : List Char} (ends : EndsNumber rest) :
    readNumber n.negative (n.body ++ rest) = n.value.map (·, rest) :=
  n.settles.eq ends

/-- A number that was read, up to something that does not carry it on. -/
theorem of_readNumber {negative : Bool} {cs rest : List Char} {x : Number}
    (h : readNumber negative cs = .ok (x, rest)) (ends : EndsNumber rest) :
    ∃ n : Numeral, n.negative = negative ∧ cs = n.body ++ rest ∧ n.value = .ok x := by
  obtain ⟨n, sign, front⟩ := readNumber_form h
  refine ⟨n, sign, front, ?_⟩
  rw [front, ← sign, n.read_body ends] at h
  cases value : n.value with
  | error f =>
    rw [value] at h
    cases h
  | ok y =>
    rw [value] at h
    cases h
    rfl

theorem natural_ne_nil (n : Nat) : Text.natural n ≠ [] := by
  obtain ⟨c, cs, front, _⟩ := natural_head n
  simp [front]

theorem natural_bare (n : Nat) (zero : (Text.natural n).head? = some '0') :
    Text.natural n = ['0'] := by
  obtain ⟨c, cs, front, small⟩ := natural_head n
  rw [front] at zero
  rw [small (Option.some.inj zero)]
  exact natural_zero

/-- An integer in plain decimal. -/
def ofInt (n : Int) : Numeral where
  negative := n < 0
  whole := ⟨Text.natural n.natAbs, fun _ => natural_digits, natural_ne_nil n.natAbs⟩
  bare := natural_bare n.natAbs

theorem ofInt_body (n : Int) : (ofInt n).body = Text.natural n.natAbs := by
  simp [body, ofInt, fractionText, scale]

theorem ofInt_text (n : Int) : (ofInt n).text = Text.integer n := by
  rw [text, ofInt_body, Text.integer]
  simp [ofInt]

theorem double_real {negative : Bool} {n : Nat} {e : Int} {x : Number}
    (h : double negative n e = .ok x) : ∃ r, x = .real r := by
  obtain ⟨y, _, same⟩ := bind_eq_ok.mp h
  cases same
  exact ⟨_, rfl⟩

theorem absorb_all {m a : Nat} {digits : List Char} (h : absorb m digits = (a, [])) :
    a = Nat.ofDigitChars 10 digits m := by
  induction digits generalizing m with
  | nil =>
    cases h
    rfl
  | cons c cs ih =>
    rw [absorb] at h
    split at h
    · rw [ih h, Nat.ofDigitChars_cons, Nat.mul_comm]
    · cases h

theorem ofInt_value_eq (n : Int) :
    (ofInt n).value = (afterDigits (n < 0) (absorb 0 (Text.natural n.natAbs)).1
      (absorb 0 (Text.natural n.natAbs)).2 []).map (·.1) := by
  have read := (ofInt n).read_whole endsNumber_nil
  rw [List.append_nil, List.append_nil] at read
  rw [value, read]
  rfl

theorem ofInt_value {n : Int} (low : -2 ^ 63 ≤ n) (high : n < 2 ^ 64) :
    (ofInt n).value = .ok (.whole n) := by
  have digits : Nat.ofDigitChars 10 (Text.natural n.natAbs) 0 = n.natAbs :=
    Text.valueOf_natural n.natAbs
  have fits : n.natAbs < UInt64.size := by
    change n.natAbs < 18446744073709551616
    omega
  have all : absorb 0 (Text.natural n.natAbs) = (n.natAbs, []) := by
    rw [absorb_fits (by rwa [digits]), digits]
  rw [ofInt_value_eq, all, ← integerOf_whole low]
  rfl

/-- Digits that 64 bits do not carry make a number a double. -/
theorem ofInt_value_cases (n : Int) :
    (ofInt n).value = .ok (integerOf (n < 0) n.natAbs) ∨
      ∃ m e, (ofInt n).value = double (n < 0) m e := by
  rw [ofInt_value_eq]
  cases digits : absorb 0 (Text.natural n.natAbs) with
  | mk m left =>
    cases left with
    | nil =>
      have whole : m = n.natAbs := (absorb_all digits).trans (Text.valueOf_natural n.natAbs)
      rw [whole]
      exact .inl rfl
    | cons c cs =>
      refine .inr ⟨m, (c :: cs).length, ?_⟩
      change (readScaled _ _ _ []).map _ = _
      rw [readScaled_plain _ _ _ endsNumber_nil]
      cases double (n < 0) m (c :: cs).length <;> rfl

/-- No integer comes to another. -/
theorem eq_of_ofInt_value {n m : Int} (h : (ofInt n).value = .ok (.whole m)) : m = n := by
  rcases ofInt_value_cases n with exact | ⟨k, e, scaled⟩
  · have same := Except.ok.inj (exact.symm.trans h)
    unfold integerOf at same
    by_cases negative : n < 0
    · rw [decide_eq_true negative, if_neg (by decide)] at same
      split at same
      · cases same
      · cases same
        omega
    · rw [decide_eq_false negative, if_pos (by decide)] at same
      cases same
      omega
  · obtain ⟨r, real⟩ := double_real (scaled.symm.trans h)
    cases real

end Numeral

end DropLedger.Json
