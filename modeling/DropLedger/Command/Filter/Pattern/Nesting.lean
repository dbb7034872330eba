/-! How deeply the constructs of a pattern are nested. A construct is one level deeper than what it
holds; a character, a set of characters and a condition have depth zero. -/
namespace DropLedger.Pattern

def depthLimit : Nat := 250

/-- Parts that stand side by side. -/
structure Row where
  size : Nat := 0
  /-- The depth of the deepest part, not counting the last one if that can be repeated. -/
  deepest : Nat := 0
  /-- The depth of the last part if that can be repeated. -/
  last : Option Nat := none
deriving DecidableEq, Repr

namespace Row

/-- Two parts and more form a construct together; one part does not. -/
def depth (r : Row) : Nat :=
  let deepest := max r.deepest (r.last.getD 0)
  if r.size ≤ 1 then deepest else deepest + 1

/-- One more part, which can be repeated. -/
def push (r : Row) (depth : Nat) : Row :=
  ⟨r.size + 1, max r.deepest (r.last.getD 0), some depth⟩

/-- One more part that is nothing to repeat. -/
def pushSetting (r : Row) : Row := ⟨r.size + 1, max r.deepest (r.last.getD 0), none⟩

/-- The last part, repeated, if it can be. -/
def repeatLast (r : Row) : Option Row := r.last.map fun depth => { r with last := some (depth + 1) }

end Row

/-- The inside of a construct that is open: a row, and the depth of what stands before the row if
there is a bar or an operator between. -/
structure Scope where
  row : Row := {}
  before : Option Nat := none
deriving DecidableEq, Repr

namespace Scope

def depth (s : Scope) : Nat :=
  match s.before with
  | none => s.row.depth
  | some before => max before s.row.depth + 1

/-- Behind a bar. All the alternatives form one construct. -/
def bar (s : Scope) : Scope := ⟨{}, some (max (s.before.getD 0) s.row.depth)⟩

/-- Behind an operator. What stands before it forms a construct of its own. -/
def operator (s : Scope) : Scope := ⟨{}, some s.depth⟩

def push (s : Scope) (depth : Nat) : Scope := { s with row := s.row.push depth }

end Scope

end DropLedger.Pattern
