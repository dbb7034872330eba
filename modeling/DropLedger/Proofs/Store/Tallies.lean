import DropLedger.Proofs.Store.Loading
import DropLedger.Proofs.Tally.Merge

/-! Tallies of what is loaded. The tally of everything comes from the tallies of the entities, in
the order of their keys, and more generally from any pieces that are put together in order. -/
namespace DropLedger.Store

/-- All that is loaded together is tallied by tallying each listed entity on its own. -/
theorem tally_loadAll (s : Store) :
    Tally.ofKills s.loadAll.1 =
      (s.keys.1.map fun key => Tally.ofKills (s.load key).1).foldl Tally.merge Tally.empty := by
  have pieces := Tally.ofKills_flatten (s.keys.1.map fun key => (s.load key).1)
  rw [List.map_map] at pieces
  rw [loadAll_eq, List.flatMap_def]
  exact pieces.symm

def orb : Kill := Kill.ofEvent "AB" unknown
  [⟨"Orb", ⟨12938, by decide, by decide⟩, ⟨90, by decide, by decide⟩, ⟨160, by decide, by decide⟩⟩]

/-- The same item, under another name and at another price. -/
def laterOrb : Kill := Kill.ofEvent "AB" unknown
  [⟨"Orbs", ⟨12938, by decide, by decide⟩, ⟨110, by decide, by decide⟩,
    ⟨170, by decide, by decide⟩⟩]

/-- Two tallies are put together item by item, the second after the first. Doing so is associative,
and a tally without items adds nothing. The tallies of pieces of a list of kills, put together in
order, are the tally of the list, wherever it is cut; so the tally of all that is loaded comes from
those of the listed entities, in the order of their keys. Kills in another order come to the same
quantities, but not always to the same names and prices. -/
theorem tallies_put_together :
    (∀ (a b : Tally) id, (a.merge b).get? id =
        match a.get? id, b.get? id with
        | none, later => later
        | some x, none => some x
        | some x, some y => some ⟨y.name, y.id, x.quantity.addCapped y.quantity, y.price⟩) ∧
      (∀ a b c : Tally, (a.merge b).merge c = a.merge (b.merge c)) ∧
      (∀ a : Tally, a.merge Tally.empty = a ∧ Tally.empty.merge a = a) ∧
      (∀ pieces : List (List Kill),
        (pieces.map Tally.ofKills).foldl Tally.merge Tally.empty =
          Tally.ofKills pieces.flatten) ∧
      (∀ s : Store, (s.keys.1.Pairwise fun j k => keyLe j k = true ∧ j ≠ k) ∧
        Tally.ofKills s.loadAll.1 =
          (s.keys.1.map fun key => Tally.ofKills (s.load key).1).foldl
            Tally.merge Tally.empty) ∧
      (∀ ks js : List Kill, ks.Perm js → ∀ id,
        ((Tally.ofKills ks).get? id).map (·.quantity) =
          ((Tally.ofKills js).get? id).map (·.quantity)) ∧
      ∃ ks js : List Kill, ks.Perm js ∧ ∃ id,
        ((Tally.ofKills ks).get? id).map (·.name) ≠
            ((Tally.ofKills js).get? id).map (·.name) ∧
          ((Tally.ofKills ks).get? id).map (·.price) ≠
            ((Tally.ofKills js).get? id).map (·.price) := by
  refine ⟨?_, Tally.merge_assoc, ?_, Tally.ofKills_flatten, ?_, ?_, ?_⟩
  · intro a b id
    rw [Tally.get?_merge]
    cases a.get? id <;> cases b.get? id <;> rfl
  · intro a
    exact ⟨a.merge_empty, a.empty_merge⟩
  · intro s
    exact ⟨Disk.keys_ascending _ _, tally_loadAll s⟩
  · intro ks js perm id
    exact Tally.quantity_perm perm id
  · exact ⟨[orb, laterOrb], [laterOrb, orb], List.Perm.swap _ _ [],
      ⟨12938, by decide, by decide⟩, by decide, by decide⟩

theorem orbs_swapped :
    [orb, laterOrb].Perm [laterOrb, orb] ∧
      ((Tally.ofKills [orb, laterOrb]).get? ⟨12938, by decide, by decide⟩).map (·.quantity) =
        some ⟨200, by decide, by decide⟩ ∧
      ((Tally.ofKills [laterOrb, orb]).get? ⟨12938, by decide, by decide⟩).map (·.quantity) =
        some ⟨200, by decide, by decide⟩ := by
  have perm : [orb, laterOrb].Perm [laterOrb, orb] := List.Perm.swap _ _ []
  obtain ⟨_, _, _, _, _, kept, _⟩ := tallies_put_together
  have same := kept _ _ perm ⟨12938, by decide, by decide⟩
  have together : ((Tally.ofKills [orb, laterOrb]).get? ⟨12938, by decide, by decide⟩).map
      (·.quantity) = some ⟨200, by decide, by decide⟩ := by decide
  exact ⟨perm, together, same ▸ together⟩

end DropLedger.Store
