import DropLedger.Kill

/-! Drops summed up by item. -/
namespace DropLedger

/-- The sum, or the greatest quantity there is. -/
def Unsigned32.addCapped (a b : Unsigned32) : Unsigned32 :=
  ⟨min (a.val + b.val) 4294967295, by have := a.lo_le; have := b.lo_le; omega, by omega⟩

/-- A later drop of the same item: quantities add up, name and price are the later ones. -/
def Drop.followedBy (a b : Drop) : Drop := { b with quantity := a.quantity.addCapped b.quantity }

/-- Adds a drop to a list in ascending order of ids. -/
def insertDrop (d : Drop) : List Drop → List Drop
  | [] => [d]
  | t :: ts =>
    if d.id.val < t.id.val then d :: t :: ts
    else if t.id = d.id then t.followedBy d :: ts
    else t :: insertDrop d ts

theorem mem_insertDrop_id {d e : Drop} {ts : List Drop} (h : e ∈ insertDrop d ts) :
    e.id = d.id ∨ ∃ t ∈ ts, e.id = t.id := by
  induction ts with
  | nil =>
    simp only [insertDrop, List.mem_singleton] at h
    exact .inl (h ▸ rfl)
  | cons t ts ih =>
    unfold insertDrop at h
    split at h
    · rcases List.mem_cons.mp h with rfl | h
      · exact .inl rfl
      · exact .inr ⟨e, h, rfl⟩
    · split at h
      · rcases List.mem_cons.mp h with rfl | h
        · exact .inl rfl
        · exact .inr ⟨e, List.mem_cons_of_mem _ h, rfl⟩
      · rcases List.mem_cons.mp h with rfl | h
        · exact .inr ⟨e, List.mem_cons_self, rfl⟩
        · rcases ih h with h | ⟨u, hu, he⟩
          · exact .inl h
          · exact .inr ⟨u, List.mem_cons_of_mem _ hu, he⟩

/-- One drop for each item, in ascending order of ids. -/
abbrev Ascending (ts : List Drop) : Prop := ts.Pairwise fun a b => a.id.val < b.id.val

theorem ascending_insertDrop {d : Drop} {ts : List Drop} (h : Ascending ts) :
    Ascending (insertDrop d ts) := by
  induction ts with
  | nil => exact List.pairwise_singleton _ _
  | cons t ts ih =>
    have parts := List.pairwise_cons.mp h
    unfold insertDrop
    split
    · rename_i below
      refine List.pairwise_cons.mpr ⟨fun e he => ?_, h⟩
      rcases List.mem_cons.mp he with rfl | he
      · exact below
      · exact Int.lt_trans below (parts.1 e he)
    · rename_i notBelow
      split
      · rename_i same
        exact List.pairwise_cons.mpr ⟨fun e he => same ▸ parts.1 e he, parts.2⟩
      · rename_i other
        refine List.pairwise_cons.mpr ⟨fun e he => ?_, ih parts.2⟩
        rcases mem_insertDrop_id he with same | ⟨u, hu, same⟩
        · rw [same]
          have apart : t.id.val ≠ d.id.val := fun h => other (Bounded.ext h)
          omega
        · rw [same]
          exact parts.1 u hu

structure Tally where
  items : List Drop
  ascending : Ascending items

namespace Tally

def empty : Tally := ⟨[], List.Pairwise.nil⟩

def add (t : Tally) (d : Drop) : Tally := ⟨insertDrop d t.items, ascending_insertDrop t.ascending⟩

def get? (t : Tally) (id : Signed32) : Option Drop := t.items.find? (·.id = id)

def ofKills (ks : List Kill) : Tally := (ks.flatMap (·.drops)).foldl add empty

/-- More worth comes first; of equal worth, the smaller id. -/
def outranks (a b : Drop) : Bool :=
  b.worth < a.worth || (a.worth == b.worth && a.id.val ≤ b.id.val)

/-- Items by worth, in whatever order they are met. Values are only needed to compare, so one item
alone is never too much. -/
def ranked (ds : List Drop) : Except Overflow (List Drop) :=
  if ds.length ≤ 1 || ds.all Drop.fits then .ok (ds.mergeSort outranks)
  else .error .product

/-- The items by worth. -/
def byValue (t : Tally) : Except Overflow (List Drop) := ranked t.items

end Tally

structure Summary where
  entity : String
  killTotal : Nat
  highestKillCount : Option Signed32
  totalValue : Signed64
  items : List Drop
deriving DecidableEq, Repr

def greatest? : List Signed32 → Option Signed32
  | [] => none
  | n :: ns =>
    match greatest? ns with
    | some m => some (if n.val < m.val then m else n)
    | none => some n

/-- The values are summed in the order of worth. -/
def Summary.ofKills (entity : String) (ks : List Kill) : Except Overflow Summary := do
  let items ← (Tally.ofKills ks).byValue
  let total ← worthTogether items
  return ⟨entity, ks.length, greatest? (ks.filterMap (·.knownKillCount)), total, items⟩

end DropLedger
