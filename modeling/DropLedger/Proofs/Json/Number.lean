import DropLedger.Json.Writer
import DropLedger.Proofs.Basic

/-! Numbers, part by part: the sign of an exponent, the exponent, what follows the first digits, and
the digits themselves as far as 64 bits carry them. -/
namespace DropLedger.Json

/-- The sign of an exponent, and what follows it. -/
def exponentSign (cs : List Char) : Bool × List Char :=
  match cs with
  | '+' :: rest => (false, rest)
  | '-' :: rest => (true, rest)
  | _ => (false, cs)

/-- The number with an exponent of at least one digit. -/
def withExponent (negative : Bool) (n : Nat) (e : Int) (down : Bool) (digits : List Char) :
    Except Fault Number :=
  let k := (absorb 0 digits).1
  if k < 0x80000000 then double negative n (if down then e - k else e + k)
  else if n ≠ 0 && !down then .error .numberRange
  else double negative 0 0

theorem readExponent_eq (negative : Bool) (n : Nat) (e : Int) (cs : List Char) :
    readExponent negative n e cs =
      if ((exponentSign cs).2.takeWhile Char.isDigit).isEmpty then
        .error (if ((exponentSign cs).2.dropWhile Char.isDigit).isEmpty then .endInValue
          else .badNumber)
      else (withExponent negative n e (exponentSign cs).1
          ((exponentSign cs).2.takeWhile Char.isDigit)).map
        (·, (exponentSign cs).2.dropWhile Char.isDigit) := by
  unfold readExponent withExponent
  split
  rename_i down body sign
  change exponentSign cs = (down, body) at sign
  rw [sign]
  dsimp only
  split
  · rfl
  split
  · cases double negative n _ <;> rfl
  split
  · rfl
  · cases double negative 0 0 <;> rfl

/-- What is read after the digits of a number: a fraction, an exponent, or nothing. -/
def afterDigits (negative : Bool) (n : Nat) (left rest : List Char) :
    Except Fault (Number × List Char) :=
  match rest with
  | '.' :: rest => readFraction negative n left.length rest
  | _ =>
    if left.isEmpty && rest.head? ≠ some 'e' && rest.head? ≠ some 'E' then
      .ok (integerOf negative n, rest)
    else readScaled negative n left.length rest

theorem readNumber_eq (negative : Bool) (cs : List Char) :
    readNumber negative cs =
      match cs.takeWhile Char.isDigit with
      | [] => .error (if (cs.dropWhile Char.isDigit).isEmpty then .endInValue else .badNumber)
      | first :: more =>
        if first = '0' && !more.isEmpty then .error .badNumber
        else afterDigits negative (absorb 0 (first :: more)).1 (absorb 0 (first :: more)).2
          (cs.dropWhile Char.isDigit) := by
  unfold readNumber
  dsimp only
  cases cs.takeWhile Char.isDigit with
  | nil => rfl
  | cons first more => rfl

/-- The rest of a text does not carry on a number that ends before it. -/
def EndsNumber (rest : List Char) : Prop :=
  ∀ c, rest.head? = some c → c.isDigit = false ∧ c ≠ '.' ∧ c ≠ 'e' ∧ c ≠ 'E'

theorem absorb_fits {m : Nat} {digits : List Char}
    (fits : Nat.ofDigitChars 10 digits m < UInt64.size) :
    absorb m digits = (Nat.ofDigitChars 10 digits m, []) := by
  induction digits generalizing m with
  | nil => rfl
  | cons c cs ih =>
    rw [Nat.ofDigitChars_cons] at fits ⊢
    have grows : ∀ k, k ≤ Nat.ofDigitChars 10 cs k := by
      intro k
      rw [Nat.ofDigitChars_eq_ofDigitChars_zero]
      have one : 1 ≤ 10 ^ cs.length := Nat.one_le_pow _ _ (by decide)
      exact Nat.le_add_right_of_le (Nat.le_mul_of_pos_left k one)
    have small : m * 10 + (c.toNat - '0'.toNat) < UInt64.size := by
      have := grows (10 * m + (c.toNat - '0'.toNat))
      omega
    rw [absorb, if_pos small, Nat.mul_comm m 10]
    exact ih fits

theorem natural_digits {n : Nat} {c : Char} (h : c ∈ Text.natural n) : c.isDigit = true :=
  Nat.isDigit_of_mem_toDigits (by decide) (by decide) h

/-- Only zero is written with a zero in front. -/
theorem natural_head (n : Nat) :
    ∃ c cs, Text.natural n = c :: cs ∧ (c = '0' → n = 0) := by
  induction n using Nat.strongRecOn with
  | ind n ih =>
    by_cases small : n < 10
    · have zero : ∀ k, k < 10 → k.digitChar = '0' → k = 0 := by decide
      exact ⟨n.digitChar, [], Nat.toDigits_of_lt_base small, zero n small⟩
    · obtain ⟨c, cs, front, zero⟩ := ih (n / 10) (by omega)
      refine ⟨c, cs ++ [(n % 10).digitChar], ?_, ?_⟩
      · rw [Text.natural, Nat.toDigits_of_base_le (by decide) (by omega)]
        exact congrArg (· ++ [(n % 10).digitChar]) front
      · intro same
        have := zero same
        omega

theorem natural_zero : Text.natural 0 = ['0'] := Nat.toDigits_zero 10

theorem integerOf_whole {n : Int} (low : -2 ^ 63 ≤ n) :
    integerOf (n < 0) n.natAbs = .whole n := by
  unfold integerOf
  by_cases negative : n < 0
  · have small : ¬ (n.natAbs = 0 || 0x8000000000000000 < n.natAbs) = true := by
      simp
      omega
    rw [decide_eq_true negative, if_neg (by decide), if_neg small]
    congr 1
    omega
  · rw [decide_eq_false negative]
    simp
    omega

end DropLedger.Json
