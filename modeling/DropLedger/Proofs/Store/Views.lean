import DropLedger.Proofs.Store.Growth
import DropLedger.Proofs.Summary

/-! Summaries and orders by worth of what was appended. They come to something exactly when the
values of the items and their sums are within the limits. A kill is taken whatever it is worth, so
a log may come to go beyond them. -/
namespace DropLedger.Store

variable {s : Store}

theorem summary_eq (s : Store) (entity : String) :
    (s.summary entity).1 = Summary.ofKills (label entity) (s.load entity).1 := rfl

/-- After kills were appended in turn, the summary of an entity comes to something if and only if no
worth of its items and no sum of them is out of the limits. The items of an entity, or those of all
that are listed, can be put in order if and only if there are no two of them or no worth is out of
the limits. The root has to be where its path leads. -/
theorem views_of_appended (proper : s.selection.Proper)
    (settled : s.disk.Settled (s.selection.root.route s.disk.start)) (ks : List Kill)
    (entity : String) :
    ((s.run (ks.map .append)).load entity).1 = s.grown ks entity ∧
      (s.run (ks.map .append)).loadAll.1 =
        (s.run (ks.map .append)).keys.1.flatMap (s.grown ks) ∧
      ((∃ m, ((s.run (ks.map .append)).summary entity).1 = .ok m) ↔
        (Tally.ofKills (s.grown ks entity)).InLimits) ∧
      ((∃ items, (Tally.ofKills ((s.run (ks.map .append)).load entity).1).byValue = .ok items) ↔
        (Tally.ofKills (s.grown ks entity)).Comparable) ∧
      ((∃ items, (Tally.ofKills (s.run (ks.map .append)).loadAll.1).byValue = .ok items) ↔
        (Tally.ofKills ((s.run (ks.map .append)).keys.1.flatMap (s.grown ks))).Comparable) := by
  have loaded := appends_load ⟨proper, settled⟩ ks
  have all := loadAll_eq (s.run (ks.map .append))
  simp only [loaded] at all
  refine ⟨loaded entity, all, ?_, ?_, ?_⟩
  · rw [summary_eq, loaded]
    exact Summary.ofKills_returns _ _
  · rw [loaded]
    exact Tally.byValue_returns
  · rw [all]
    exact Tally.byValue_returns

/-- Its price is the greatest there is. -/
def gem : Drop :=
  ⟨"Gem", ⟨1, by decide, by decide⟩, bone.quantity, ⟨9223372036854775807, by decide, by decide⟩⟩

def hoard : Kill := Kill.ofEvent "AB" unknown [gem, bone]

theorem hoard_summed :
    ((cutShort.run [.append hoard]).load "ab").1 = [hoard] ∧
      ∃ m, ((cutShort.run [.append hoard]).summary "ab").1 = .ok m := by
  have settled := settled_of_isDir (d := cutShort.disk) (p := cutShort.selection.root) (by decide)
  have grown : cutShort.grown [hoard] "ab" = [hoard] := by decide +kernel
  obtain ⟨loaded, _, summed, _⟩ := views_of_appended (s := cutShort) nofun settled [hoard] "ab"
  rw [grown] at loaded summed
  exact ⟨loaded, summed.mpr (by decide +kernel)⟩

/-- Two kills that were taken, each worth no more than there is, are worth more together. -/
theorem hoards_overflow :
    cutShort.accepted [hoard, hoard] = [hoard, hoard] ∧
      ((cutShort.run [.append hoard, .append hoard]).summary "ab").1 = .error .product ∧
      (Tally.ofKills ((cutShort.run [.append hoard, .append hoard]).load "ab").1).byValue =
        .error .product ∧
      (Tally.ofKills (cutShort.run [.append hoard, .append hoard]).loadAll.1).byValue =
        .error .product := by
  refine ⟨by decide +kernel, by decide +kernel, by decide +kernel, by decide +kernel⟩

end DropLedger.Store
