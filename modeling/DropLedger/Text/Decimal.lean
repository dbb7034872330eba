import DropLedger.Bounded

/-! Integers in plain decimal, as they stand in arguments and in lines. -/
namespace DropLedger.Text

/-- No sign and no leading zero. -/
def natural (n : Nat) : List Char := Nat.toDigits 10 n

/-- A minus sign stands before a negative number and no sign before any other. -/
def integer (n : Int) : List Char :=
  if n < 0 then '-' :: natural n.natAbs else natural n.natAbs

/-- The value of a run of digits; the empty run is zero. -/
def valueOf (digits : List Char) : Nat := Nat.ofDigitChars 10 digits 0

theorem valueOf_natural (n : Nat) : valueOf (natural n) = n :=
  Nat.ofDigitChars_toDigits (by decide) (by decide)

/-- Why a text is no integer within the limits. -/
inductive IntegerFault where
  | empty
  | badDigit
  | tooLarge
  | tooSmall
deriving DecidableEq, Repr

def IntegerFault.message : IntegerFault → String
  | .empty => "cannot parse integer from empty string"
  | .badDigit => "invalid digit found in string"
  | .tooLarge => "number too large to fit in target type"
  | .tooSmall => "number too small to fit in target type"

/-- Takes off one sign. Only where the limits admit a negative number is a minus sign one. -/
def splitSign (lo : Int) : List Char → Bool × List Char
  | '+' :: c :: rest => (false, c :: rest)
  | '-' :: c :: rest => if lo < 0 then (true, c :: rest) else (false, '-' :: c :: rest)
  | cs => (false, cs)

/-- Reads an optional sign and ASCII digits. Reading goes from left to right, so a number that is
outside the limits before its first bad character is reported as that. -/
def readInteger (lo hi : Int) (cs : List Char) : Except IntegerFault (Bounded lo hi) :=
  if cs.isEmpty then .error .empty
  else
    let (negative, body) := splitSign lo cs
    let digits := body.takeWhile Char.isDigit
    let n : Int := if negative then -valueOf digits else valueOf digits
    match Bounded.ofInt? lo hi n with
    | none => .error (if negative then .tooSmall else .tooLarge)
    | some b => if digits.length = body.length then .ok b else .error .badDigit

end DropLedger.Text
