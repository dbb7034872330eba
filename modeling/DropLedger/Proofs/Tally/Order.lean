import DropLedger.Proofs.Summary
import DropLedger.Proofs.Tally.Totals

/-! The order of worth. No two items of a tally have the same id, so of any two one comes before the
other, and there is only one list of the items in this order, whatever order they are met in. -/
namespace DropLedger.Tally

/-- More worth comes first; of equal worth, the smaller id. -/
def Before (a b : Drop) : Prop := b.worth < a.worth ∨ a.worth = b.worth ∧ a.id.val < b.id.val

section Order

variable {t : Tally} {ds es : List Drop}

theorem before_trans {a b c : Drop} (first : Before a b) (second : Before b c) : Before a c := by
  unfold Before at *
  omega

instance : IsTrans Drop Before := ⟨fun _ _ _ => before_trans⟩

theorem before_asymm {a b : Drop} (first : Before a b) : ¬ Before b a := by
  unfold Before at *
  omega

/-- The order decides between any two items that are not the same. -/
theorem before_of_outranks {a b : Drop} (ahead : outranks a b = true) (apart : a.id ≠ b.id) :
    Before a b := by
  have other : a.id.val ≠ b.id.val := fun same => apart (Bounded.ext same)
  rw [outranks_iff] at ahead
  unfold Before
  omega

theorem mergeSort_before (perm : ds.Perm t.items) : (ds.mergeSort outranks).Pairwise Before := by
  have sorted := List.pairwise_mergeSort outranks_trans outranks_total ds
  have items := ((List.mergeSort_perm ds outranks).trans perm).map (·.id)
  have apart := List.pairwise_map.mp (items.nodup_iff.mpr t.ids_nodup)
  exact (sorted.and apart).imp fun ⟨ahead, other⟩ => before_of_outranks ahead other

theorem before_unique (perm : ds.Perm es) (left : ds.Pairwise Before)
    (right : es.Pairwise Before) : ds = es :=
  eq_of_same_members (fun _ _ => before_asymm) left right fun _ => perm.mem_iff

/-- It makes no difference in which order the items are met, also where their values are too
much. -/
theorem ranked_perm (perm : ds.Perm t.items) : ranked ds = t.byValue := by
  have same : ds.mergeSort outranks = t.items.mergeSort outranks := by
    apply before_unique
    · exact (List.mergeSort_perm _ _).trans (perm.trans (List.mergeSort_perm _ _).symm)
    · exact mergeSort_before perm
    · exact mergeSort_before (List.Perm.refl t.items)
  unfold byValue ranked
  rw [perm.length_eq, perm.all_eq, same]

end Order

/-- If the worth of every item fits a value, the items by worth are the items of the tally, each of
them once, where each has more worth than the next or as much and a smaller id. No other list is
like that, and it does not depend on the order in which the items are met. -/
theorem byValue_canonical (ks : List Kill)
    (fits : ∀ d ∈ (ofKills ks).items, InSigned64 d.worth) :
    ∃ items, (ofKills ks).byValue = .ok items ∧ items.Perm (ofKills ks).items ∧
      items.Nodup ∧ items.IsChain Before ∧
      (∀ others : List Drop, others.Perm (ofKills ks).items → others.IsChain Before →
        others = items) ∧
      ∀ met : List Drop, met.Perm (ofKills ks).items → ranked met = .ok items := by
  have every : ∀ d ∈ (ofKills ks).items, d.fits = true :=
    fun d member => fits_iff_inSigned64.mpr (fits d member)
  obtain ⟨items, ordered⟩ := byValue_returns.mpr (.inr every)
  have perm : items.Perm (ofKills ks).items :=
    byValue_ok ordered ▸ List.mergeSort_perm _ _
  have sorted : items.Pairwise Before :=
    byValue_ok ordered ▸ mergeSort_before (List.Perm.refl _)
  refine ⟨items, ordered, perm, ?_, sorted.isChain, ?_, ?_⟩
  · exact (perm.map (·.id)).nodup_iff.mpr (ids_nodup _) |>.of_map
  · intro others whole chain
    exact before_unique (whole.trans perm.symm) (List.isChain_iff_pairwise.mp chain) sorted
  · intro met whole
    rw [ranked_perm whole, ordered]

def scales : Drop :=
  ⟨"Scales", ⟨12934, by decide, by decide⟩, ⟨400, by decide, by decide⟩,
    ⟨150, by decide, by decide⟩⟩

def onyx : Drop :=
  ⟨"Onyx", ⟨9194, by decide, by decide⟩, ⟨7, by decide, by decide⟩, ⟨12000, by decide, by decide⟩⟩

def coins : Drop :=
  ⟨"Coins", ⟨995, by decide, by decide⟩, ⟨60000, by decide, by decide⟩, ⟨1, by decide, by decide⟩⟩

/-- The coins are worth as much as the scales. -/
theorem tied_in_order :
    (∀ d ∈ (ofKills [Kill.ofEvent "AB" unknown [scales, coins, onyx]]).items,
        InSigned64 d.worth) ∧
      (ofKills [Kill.ofEvent "AB" unknown [scales, coins, onyx]]).byValue =
        .ok [onyx, coins, scales] ∧
      ranked [onyx, scales, coins] = .ok [onyx, coins, scales] := by
  have items : (ofKills [Kill.ofEvent "AB" unknown [scales, coins, onyx]]).items =
      [coins, onyx, scales] := by decide
  have fits : ∀ d ∈ (ofKills [Kill.ofEvent "AB" unknown [scales, coins, onyx]]).items,
      InSigned64 d.worth := by
    rw [items]
    intro d member
    exact fits_iff_inSigned64.mp (List.all_eq_true.mp (by decide) d member)
  have order : [onyx, coins, scales].IsChain Before :=
    .cons_cons (.inl (by decide)) (.cons_cons (.inr (by decide)) (.singleton _))
  obtain ⟨ranking, ordered, _, _, _, only, met⟩ := byValue_canonical _ fits
  rw [items] at only met
  obtain rfl := only [onyx, coins, scales] (by decide) order
  exact ⟨fits, ordered, met [onyx, scales, coins] (by decide)⟩

end DropLedger.Tally
