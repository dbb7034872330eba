/-! Integers between fixed limits. Ids, levels and kill counts, quantities, prices and values
differ only in their limits, so one type serves all of them. -/
namespace DropLedger

/-- An integer from `lo` to `hi`, both included. -/
structure Bounded (lo hi : Int) where
  val : Int
  lo_le : lo ≤ val
  le_hi : val ≤ hi
deriving DecidableEq, Repr

namespace Bounded

variable {lo hi : Int}

/-- Refuses what is outside the limits; nothing wraps, clips or rounds. -/
def ofInt? (lo hi n : Int) : Option (Bounded lo hi) :=
  if h : lo ≤ n ∧ n ≤ hi then some ⟨n, h.1, h.2⟩ else none

theorem ext {a b : Bounded lo hi} (h : a.val = b.val) : a = b := by
  cases a
  cases b
  cases h
  rfl

@[simp] theorem ofInt?_val (a : Bounded lo hi) : ofInt? lo hi a.val = some a := by
  simp [ofInt?, a.lo_le, a.le_hi]

theorem ofInt?_eq_some {n : Int} {a : Bounded lo hi} : ofInt? lo hi n = some a ↔ a.val = n := by
  constructor
  · intro h
    unfold ofInt? at h
    split at h
    · cases h
      rfl
    · cases h
  · rintro rfl
    exact ofInt?_val a

theorem ofInt?_eq_none {n : Int} : ofInt? lo hi n = none ↔ n < lo ∨ hi < n := by
  unfold ofInt?
  split <;> simp <;> omega

end Bounded

/-- Ids, levels and kill counts. -/
abbrev Signed32 := Bounded (-2147483648) 2147483647

/-- Quantities. -/
abbrev Unsigned32 := Bounded 0 4294967295

/-- Prices and values. -/
abbrev Signed64 := Bounded (-9223372036854775808) 9223372036854775807

/-- Stands for an id, a level or a kill count that was not known when the kill was noted. -/
def unknown : Signed32 := ⟨-1, by decide, by decide⟩

end DropLedger
