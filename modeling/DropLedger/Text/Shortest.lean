import DropLedger.Text.Decimal

/-! The shortest decimal that reads back as the same double. -/
namespace DropLedger.Text

/-- A positive double as `mantissa * 2 ^ exponent`; `edge` says that the doubles below it lie
closer together than those above. -/
structure DoubleParts where
  mantissa : Nat
  exponent : Int
  edge : Bool
deriving DecidableEq, Repr

def doubleParts (x : Float) : DoubleParts :=
  let bits := x.toBits.toNat
  let fraction : Nat := bits % Nat.pow 2 52
  let field : Nat := bits / Nat.pow 2 52 % Nat.pow 2 11
  if field = 0 then ⟨fraction, -1074, false⟩
  else ⟨fraction + Nat.pow 2 52, (field : Int) - 1075, fraction = 0 && field ≠ 1⟩

/-- A positive rational with the interval of reals that round to it, all over one denominator. -/
structure Target where
  low : Nat
  value : Nat
  high : Nat
  denominator : Nat
  closed : Bool
deriving DecidableEq, Repr

/-- The ends of the interval belong to it where the mantissa is even. -/
def DoubleParts.target (p : DoubleParts) : Target :=
  let up := Nat.pow 2 p.exponent.toNat
  ⟨(4 * p.mantissa - if p.edge then 1 else 2) * up, 4 * p.mantissa * up,
    (4 * p.mantissa + 2) * up, 4 * Nat.pow 2 (-p.exponent).toNat, p.mantissa % 2 = 0⟩

/-- Whether `digits * 10 ^ k` rounds to the target. -/
def Target.admits (t : Target) (digits : Nat) (k : Int) : Bool :=
  let point := digits * Nat.pow 10 k.toNat * t.denominator
  let scale := Nat.pow 10 (-k).toNat
  if t.closed then t.low * scale ≤ point && point ≤ t.high * scale
  else t.low * scale < point && point < t.high * scale

/-- The exponent of ten of the first digit. -/
def Target.magnitude (t : Target) : Int :=
  if t.denominator ≤ t.value then (natural (t.value / t.denominator)).length - 1
  else
    match (List.range 400).find? fun k => t.denominator ≤ t.value * Nat.pow 10 k with
    | some k => -k
    | none => -400

/-- Of the two points of a decimal grid around the value, one that rounds to it: the nearer, and
the even one of two that are equally near. -/
def Target.hit? (t : Target) (k : Int) : Option Nat :=
  let top := t.value * Nat.pow 10 (-k).toNat
  let step := t.denominator * Nat.pow 10 k.toNat
  let below := top / step
  match t.admits below k, t.admits (below + 1) k with
  | true, true =>
    let rest := top % step
    some (if 2 * rest < step || (2 * rest = step && below % 2 = 0) then below else below + 1)
  | true, false => some below
  | false, true => some (below + 1)
  | false, false => none

/-- Seventeen digits always suffice. -/
def Target.digits (t : Target) : Nat × Int :=
  let first := t.magnitude
  match (List.range 17).findSome? fun (n : Nat) =>
      (t.hit? (first - n)).map fun d => (d, first - n) with
  | some found => found
  | none => (t.value, 0)

/-- The digits without trailing zeros, and the place of the point counted from their start. -/
def shortestDigits (x : Float) : List Char × Int :=
  let (d, k) := (doubleParts x).target.digits
  let ds := natural d
  ((ds.reverse.dropWhile (· == '0')).reverse, ds.length + k)

/-- How a double is written: positional where the point lies at most `above` places to the right
and fewer than `below` places to the left of the first digit, else with an exponent, which bears a
plus sign if `plus` says so. -/
structure DoubleFormat where
  above : Int
  below : Int
  plus : Bool
deriving DecidableEq, Repr

def DoubleFormat.write (f : DoubleFormat) (x : Float) : String :=
  let sign := if x.toBits.toNat / Nat.pow 2 63 = 1 then "-" else ""
  if x == 0 then sign ++ "0.0"
  else
    let (ds, point) := shortestDigits x
    let body :=
      if 0 < point && point ≤ f.above then
        let whole := ds.take point.toNat
        let rest := ds.drop point.toNat
        whole ++ List.replicate (point.toNat - ds.length) '0' ++ ['.'] ++
          (if rest.isEmpty then ['0'] else rest)
      else if -f.below < point && point ≤ 0 then
        ['0', '.'] ++ List.replicate (-point).toNat '0' ++ ds
      else
        let exponent := point - 1
        ds.take 1 ++ (if ds.length = 1 then [] else '.' :: ds.drop 1) ++ ['e'] ++
          (if exponent < 0 then ['-'] else if f.plus then ['+'] else []) ++
          natural exponent.natAbs
    sign ++ String.ofList body

end DropLedger.Text
