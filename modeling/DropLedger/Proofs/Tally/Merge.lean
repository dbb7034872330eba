import DropLedger.Proofs.Tally.Totals

/-! Tallies put together. A tally of kills can be made piece by piece, however the kills are cut up,
as long as the pieces stay in order. The quantities do not depend on the order; the names and the
prices do. -/
namespace DropLedger

theorem Unsigned32.addCapped_assoc (a b c : Unsigned32) :
    (a.addCapped b).addCapped c = a.addCapped (b.addCapped c) := by
  have first := a.lo_le
  have last := c.lo_le
  apply Bounded.ext
  simp only [Unsigned32.addCapped]
  omega

theorem Drop.followedBy_assoc (a b c : Drop) :
    (a.followedBy b).followedBy c = a.followedBy (b.followedBy c) := by
  simp [Drop.followedBy, Unsigned32.addCapped_assoc]

instance : Std.Associative Drop.followedBy := ⟨Drop.followedBy_assoc⟩

namespace Tally

variable {a b c : Tally} {d : Drop} {ds : List Drop} {id : Signed32}

/-- A tally is told by what it holds of each item. -/
theorem ext_get? (same : ∀ id, a.get? id = b.get? id) : a = b := by
  have members : ∀ e, e ∈ a.items ↔ e ∈ b.items := by
    intro e
    have found := same e.id
    constructor
    · intro member
      exact (get?_eq_some.mp (found ▸ get?_eq_some.mpr ⟨member, rfl⟩)).1
    · intro member
      exact (get?_eq_some.mp (found ▸ get?_eq_some.mpr ⟨member, rfl⟩)).1
  have items : a.items = b.items := by
    refine eq_of_same_members ?_ a.ascending b.ascending members
    intro d e below
    omega
  cases a
  cases b
  cases items
  rfl

/-- The second tally after the first: the quantities of an item that is in both add up, as far as
one can be noted, and its name and its price are those of the second. -/
def merge (a b : Tally) : Tally := b.items.foldl add a

theorem get?_foldl_add (t : Tally) (sorted : Ascending ds) (id : Signed32) :
    (ds.foldl add t).get? id =
      (t.get? id).merge Drop.followedBy (ds.find? (·.id = id)) := by
  induction ds generalizing t with
  | nil => simp
  | cons d ds ih =>
    obtain ⟨below, rest⟩ := List.pairwise_cons.mp sorted
    rw [List.foldl_cons, ih (t.add d) rest, get?_add]
    by_cases own : d.id = id
    · -- The items are in order, so the drop is the only one of its item.
      have once : ds.find? (·.id = id) = none := find?_above (own ▸ below)
      simp [own, once]
    · simp [own]

theorem get?_merge (a b : Tally) (id : Signed32) :
    (a.merge b).get? id = (a.get? id).merge Drop.followedBy (b.get? id) :=
  get?_foldl_add a b.ascending id

theorem merge_assoc (a b c : Tally) : (a.merge b).merge c = a.merge (b.merge c) := by
  apply ext_get?
  intro id
  simp only [get?_merge]
  exact Std.Associative.assoc _ _ _

@[simp] theorem merge_empty (a : Tally) : a.merge empty = a := rfl

@[simp] theorem empty_merge (a : Tally) : empty.merge a = a := by
  apply ext_get?
  simp [get?_merge]

theorem merge_add (a b : Tally) (d : Drop) : (a.merge b).add d = a.merge (b.add d) := by
  apply ext_get?
  intro id
  simp only [get?_merge, get?_add]
  exact Std.Associative.assoc _ _ _

/-- What is added later can be tallied on its own first. -/
theorem foldl_add (t : Tally) (ds : List Drop) :
    ds.foldl add t = t.merge (ds.foldl add empty) := by
  induction ds using List.reverseRecOn with
  | nil => rfl
  | append_singleton ds d ih =>
    rw [List.foldl_concat, List.foldl_concat, ih]
    exact merge_add t (ds.foldl add empty) d

theorem ofKills_append (ks js : List Kill) :
    ofKills (ks ++ js) = (ofKills ks).merge (ofKills js) := by
  unfold ofKills
  rw [List.flatMap_append, List.foldl_append]
  exact foldl_add _ _

theorem ofKills_flatten (pieces : List (List Kill)) :
    (pieces.map ofKills).foldl merge empty = ofKills pieces.flatten := by
  induction pieces using List.reverseRecOn with
  | nil => rfl
  | append_singleton pieces ks ih =>
    rw [List.map_append, List.map_singleton, List.foldl_concat, ih]
    simp [ofKills_append]

/-- What is held of an item is as much after the same drops in another order. -/
theorem Sums.quantity_perm {es : List Drop} (left : a.Sums ds) (right : b.Sums es)
    (perm : ds.Perm es) (id : Signed32) :
    (a.get? id).map (·.quantity) = (b.get? id).map (·.quantity) := by
  have own := perm.filter (·.id = id)
  have empty : ds.filter (·.id = id) = [] ↔ es.filter (·.id = id) = [] := by
    rw [← List.length_eq_zero_iff, own.length_eq, List.length_eq_zero_iff]
  have numbers : (a.get? id).map (·.quantity.val) = (b.get? id).map (·.quantity.val) := by
    simp only [left.quantity, right.quantity, empty, quantities_perm own]
  cases held : a.get? id <;> cases other : b.get? id <;> simp [held, other] at numbers ⊢
  exact Bounded.ext numbers

theorem quantity_perm {ks js : List Kill} (perm : ks.Perm js) (id : Signed32) :
    ((ofKills ks).get? id).map (·.quantity) = ((ofKills js).get? id).map (·.quantity) :=
  (sums_ofKills ks).quantity_perm (sums_ofKills js) (perm.flatMap_right _) id

end Tally

end DropLedger
