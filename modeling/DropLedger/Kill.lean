import DropLedger.Bounded

/-! Kills and their drops, and what a drop is worth. -/
namespace DropLedger

/-- A stack of one item. The price is that of one piece at the time of the kill; 0 if unknown. -/
structure Drop where
  name : String
  id : Signed32
  quantity : Unsigned32
  price : Signed64
deriving DecidableEq, Repr

/-- One kill of an entity, or one reward from an event, with the drops it gave. -/
structure Kill where
  id : Signed32
  name : String
  level : Signed32
  killCount : Signed32
  drops : List Drop
deriving DecidableEq, Repr

inductive Overflow where
  | product
  | sum
deriving DecidableEq, Repr

def Overflow.message : Overflow → String
  | .product => "attempt to multiply with overflow"
  | .sum => "attempt to add with overflow"

/-- The exact worth of a drop, whatever its size. -/
def Drop.worth (d : Drop) : Int := d.quantity.val * d.price.val

def Drop.fits (d : Drop) : Bool :=
  -9223372036854775808 ≤ d.worth && d.worth ≤ 9223372036854775807

def Drop.value (d : Drop) : Except Overflow Signed64 :=
  match Bounded.ofInt? (-9223372036854775808) 9223372036854775807 d.worth with
  | some v => .ok v
  | none => .error .product

def Unsigned32.zero : Unsigned32 := ⟨0, by decide, by decide⟩

def Signed64.zero : Signed64 := ⟨0, by decide, by decide⟩

def Signed64.add (a b : Signed64) : Except Overflow Signed64 :=
  match Bounded.ofInt? (-9223372036854775808) 9223372036854775807 (a.val + b.val) with
  | some v => .ok v
  | none => .error .sum

/-- Adds the values of drops from left to right; every partial sum has to fit. -/
def valueFrom (total : Signed64) : List Drop → Except Overflow Signed64
  | [] => .ok total
  | d :: ds => do
    let total ← Signed64.add total (← d.value)
    valueFrom total ds

def worthTogether (ds : List Drop) : Except Overflow Signed64 := valueFrom Signed64.zero ds

namespace Kill

/-- A reward from an event has neither an id nor a level. -/
def ofEvent (name : String) (killCount : Signed32) (drops : List Drop) : Kill :=
  ⟨unknown, name, unknown, killCount, drops⟩

def known (n : Signed32) : Option Signed32 := if n = unknown then none else some n

def knownKillCount (k : Kill) : Option Signed32 := known k.killCount

def knownLevel (k : Kill) : Option Signed32 := known k.level

def value (k : Kill) : Except Overflow Signed64 := worthTogether k.drops

/-- The kill with more drops after its own. -/
def addDrops (k : Kill) (ds : List Drop) : Kill := { k with drops := k.drops ++ ds }

end Kill

end DropLedger
