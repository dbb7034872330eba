import DropLedger.Json.Fault

/-! Reading a JSON number. A number without point and exponent stays an integer as far as 64 bits
carry it; every other number becomes a double. -/
namespace DropLedger.Json

inductive Number where
  | whole (n : Int)
  | real (x : Float)
deriving DecidableEq

def Number.found : Number → Found
  | .whole n => .integer n
  | .real x => .real x

/-- Takes in digits as long as the number stays below 2 ^ 64; what is left no longer counts. -/
def absorb (n : Nat) : List Char → Nat × List Char
  | [] => (n, [])
  | c :: rest =>
    let m := n * 10 + (c.toNat - '0'.toNat)
    if m < UInt64.size then absorb m rest else (n, c :: rest)

def powerOfTen (k : Nat) : Float := Float.ofScientific 1 false k

/-- `x * 10 ^ e`, rounded at each step; a power of ten beyond the doubles is taken in steps. -/
def scaleBy (x : Float) (e : Int) : Except Fault Float :=
  if e.natAbs ≤ 308 then
    if 0 ≤ e then
      let y := x * powerOfTen e.natAbs
      if y.isInf then .error .numberRange else .ok y
    else .ok (x / powerOfTen e.natAbs)
  else if x == 0 then .ok x
  else if 0 ≤ e then .error .numberRange
  else scaleBy (x / powerOfTen 308) (e + 308)
termination_by e.natAbs
decreasing_by omega

/-- The double of a number with at most 64 bits of digits. -/
def double (negative : Bool) (n : Nat) (e : Int) : Except Fault Number := do
  let x ← scaleBy (UInt64.ofNat n).toFloat e
  return .real (if negative then -x else x)

/-- Reads after the letter of the exponent. An exponent beyond 32 bits makes the number zero or
puts it out of range; the first digits show that already. -/
def readExponent (negative : Bool) (n : Nat) (e : Int) (cs : List Char) :
    Except Fault (Number × List Char) := do
  let (down, body) : Bool × List Char := match cs with
    | '+' :: rest => (false, rest)
    | '-' :: rest => (true, rest)
    | _ => (false, cs)
  let digits := body.takeWhile Char.isDigit
  let rest := body.dropWhile Char.isDigit
  if digits.isEmpty then
    throw (if rest.isEmpty then .endInValue else .badNumber)
  let k := (absorb 0 digits).1
  if k < 0x80000000 then
    return (← double negative n (if down then e - k else e + k), rest)
  else if n ≠ 0 && !down then throw .numberRange
  else return (← double negative 0 0, rest)

/-- Goes on after the digits: an exponent, or the end of the number. -/
def readScaled (negative : Bool) (n : Nat) (e : Int) (cs : List Char) :
    Except Fault (Number × List Char) := do
  match cs with
  | 'e' :: rest => readExponent negative n e rest
  | 'E' :: rest => readExponent negative n e rest
  | _ => return (← double negative n e, cs)

/-- Reads after the point; at least one digit is due. -/
def readFraction (negative : Bool) (n : Nat) (e : Int) (cs : List Char) :
    Except Fault (Number × List Char) :=
  let digits := cs.takeWhile Char.isDigit
  let rest := cs.dropWhile Char.isDigit
  if digits.isEmpty then .error (if rest.isEmpty then .endInValue else .badNumber)
  else
    let (m, left) := absorb n digits
    readScaled negative m (e - (digits.length - left.length : Nat)) rest

/-- An integer of at most 64 bits. Minus zero is a double, and so is what lies below the least
signed integer. -/
def integerOf (negative : Bool) (n : Nat) : Number :=
  if !negative then .whole n
  else if n = 0 || 0x8000000000000000 < n then .real (-(UInt64.ofNat n).toFloat)
  else .whole (-n)

def readNumber (negative : Bool) (cs : List Char) : Except Fault (Number × List Char) :=
  let digits := cs.takeWhile Char.isDigit
  let rest := cs.dropWhile Char.isDigit
  match digits with
  | [] => .error (if rest.isEmpty then .endInValue else .badNumber)
  | first :: more =>
    if first = '0' && !more.isEmpty then .error .badNumber
    else
      let (n, left) := absorb 0 digits
      match rest with
      | '.' :: rest => readFraction negative n left.length rest
      | _ =>
        if left.isEmpty && rest.head? ≠ some 'e' && rest.head? ≠ some 'E' then
          .ok (integerOf negative n, rest)
        else readScaled negative n left.length rest

def skipExponent (cs : List Char) : Except Fault (Unit × List Char) :=
  let body := match cs with
    | '+' :: rest => rest
    | '-' :: rest => rest
    | _ => cs
  if (body.takeWhile Char.isDigit).isEmpty then .error .badNumber
  else .ok ((), body.dropWhile Char.isDigit)

/-- Skips a number whose sign has been read. Only the form counts, not the size. -/
def skipNumber (cs : List Char) : Except Fault (Unit × List Char) :=
  let afterExponent (cs : List Char) : Except Fault (Unit × List Char) := match cs with
    | 'e' :: rest => skipExponent rest
    | 'E' :: rest => skipExponent rest
    | _ => .ok ((), cs)
  let digits := cs.takeWhile Char.isDigit
  match digits with
  | [] => .error .badNumber
  | first :: more =>
    if first = '0' && !more.isEmpty then .error .badNumber
    else match cs.dropWhile Char.isDigit with
      | '.' :: rest =>
        if (rest.takeWhile Char.isDigit).isEmpty then .error .badNumber
        else afterExponent (rest.dropWhile Char.isDigit)
      | rest => afterExponent rest

end DropLedger.Json
