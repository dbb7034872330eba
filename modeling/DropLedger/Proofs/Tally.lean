import DropLedger.Tally
import DropLedger.Proofs.Basic

/-! What drops are worth together. Sums are taken in descending order of worth, so they rise to the
sum of all gains and then fall: it is enough to look at the peak and at the end. -/
namespace DropLedger

theorem Drop.value_eq_ok {d : Drop} {v : Signed64} : d.value = .ok v ↔ v.val = d.worth := by
  rw [← Bounded.ofInt?_eq_some, Drop.value]
  cases Bounded.ofInt? _ _ d.worth <;> simp

theorem Drop.value_unfit {d : Drop} (unfit : d.fits = false) : d.value = .error .product := by
  have none : Bounded.ofInt? (-9223372036854775808) 9223372036854775807 d.worth = none := by
    rw [Bounded.ofInt?_eq_none]
    simp [Drop.fits] at unfit
    omega
  rw [Drop.value, none]

theorem Drop.fits_iff {d : Drop} : d.fits = true ↔ ∃ v, d.value = .ok v := by
  simp only [Drop.value_eq_ok, Drop.fits, Bool.and_eq_true, decide_eq_true_eq]
  constructor
  · rintro ⟨above, below⟩
    exact ⟨⟨d.worth, above, below⟩, rfl⟩
  · rintro ⟨v, same⟩
    exact same ▸ ⟨v.lo_le, v.le_hi⟩

/-- The exact worth of drops together, whatever its size. -/
def worths (ds : List Drop) : Int := (ds.map Drop.worth).sum

/-- What the drops are worth that are worth something. -/
def gains (ds : List Drop) : Int := (ds.map fun d => max d.worth 0).sum

/-- Neither the peak nor the end of the partial sums is out of the limits. -/
def SumFits (total : Int) (ds : List Drop) : Prop :=
  total + gains ds ≤ 9223372036854775807 ∧ -9223372036854775808 ≤ total + worths ds

section Sums

variable {d : Drop} {ds es : List Drop} {total : Signed64}

theorem worths_cons (d : Drop) (ds : List Drop) : worths (d :: ds) = d.worth + worths ds := rfl

theorem gains_cons (d : Drop) (ds : List Drop) : gains (d :: ds) = max d.worth 0 + gains ds := rfl

theorem gains_nonneg (ds : List Drop) : 0 ≤ gains ds := by
  induction ds with
  | nil => exact Int.le_refl 0
  | cons d ds ih =>
    rw [gains_cons]
    omega

theorem sums_of_losses (h : ∀ d ∈ ds, d.worth ≤ 0) : gains ds = 0 ∧ worths ds ≤ 0 := by
  induction ds with
  | nil => exact ⟨rfl, Int.le_refl 0⟩
  | cons d ds ih =>
    obtain ⟨loss, others⟩ := List.forall_mem_cons.mp h
    obtain ⟨none, below⟩ := ih others
    rw [gains_cons, worths_cons]
    omega

theorem sums_after_loss (falling : ∀ e ∈ ds, e.worth ≤ d.worth) (loss : ¬0 ≤ d.worth) :
    gains ds = 0 ∧ worths ds ≤ 0 :=
  sums_of_losses fun e member => (falling e member).trans (Int.le_of_not_le loss)

theorem sumFits_perm {total : Int} (perm : ds.Perm es) : SumFits total ds ↔ SumFits total es := by
  have gained : gains ds = gains es := (perm.map _).sum_eq
  have worth : worths ds = worths es := (perm.map _).sum_eq
  rw [SumFits, SumFits, gained, worth]

theorem sumFits_cons {next : Signed64} (falling : ∀ e ∈ ds, e.worth ≤ d.worth)
    (first : next.val = total.val + d.worth) :
    SumFits next.val ds ↔ SumFits total.val (d :: ds) := by
  have before := total.le_hi
  have after := next.le_hi
  unfold SumFits
  rw [gains_cons, worths_cons]
  -- After a loss there are only losses, so the start was the peak.
  by_cases gain : 0 ≤ d.worth
  · omega
  · have losses := sums_after_loss falling gain
    omega

theorem not_sumFits (falling : ∀ e ∈ ds, e.worth ≤ d.worth)
    (out : total.val + d.worth < -9223372036854775808 ∨ 9223372036854775807 < total.val + d.worth) :
    ¬SumFits total.val (d :: ds) := by
  have low := total.lo_le
  have high := total.le_hi
  have others := gains_nonneg ds
  unfold SumFits
  rw [gains_cons, worths_cons]
  by_cases gain : 0 ≤ d.worth
  · omega
  · have losses := sums_after_loss falling gain
    omega

/-- Drops in descending order of worth are summed exactly, or a sum is out of the limits. -/
theorem valueFrom_cases (total : Signed64) (fits : ∀ d ∈ ds, d.fits = true)
    (sorted : ds.Pairwise fun a b => b.worth ≤ a.worth) :
    (SumFits total.val ds ∧
        ∃ v, valueFrom total ds = .ok v ∧ v.val = total.val + worths ds) ∨
      (¬SumFits total.val ds ∧ valueFrom total ds = .error .sum) := by
  induction ds generalizing total with
  | nil =>
    refine .inl ⟨?_, total, rfl, (Int.add_zero _).symm⟩
    have low := total.lo_le
    have high := total.le_hi
    simp only [SumFits, gains, worths, List.map_nil, List.sum_nil]
    omega
  | cons d ds ih =>
    -- The first sum takes the place of the start, and it has to fit itself.
    obtain ⟨fit, others⟩ := List.forall_mem_cons.mp fits
    obtain ⟨falling, rest⟩ := List.pairwise_cons.mp sorted
    obtain ⟨v, value⟩ := Drop.fits_iff.mp fit
    have exact_worth := Drop.value_eq_ok.mp value
    have step : valueFrom total (d :: ds) = (Signed64.add total v >>= fun n => valueFrom n ds) := by
      rw [valueFrom, value]
      rfl
    rw [step, Signed64.add]
    cases sum : Bounded.ofInt? (-9223372036854775808) 9223372036854775807 (total.val + v.val) with
    | none =>
      rw [exact_worth] at sum
      exact .inr ⟨not_sumFits falling (Bounded.ofInt?_eq_none.mp sum), rfl⟩
    | some next =>
      have first := Bounded.ofInt?_eq_some.mp sum
      rw [exact_worth] at first
      rw [← sumFits_cons falling first, worths_cons, ← Int.add_assoc, ← first]
      exact ih next others rest

end Sums

namespace Tally

theorem outranks_iff {a b : Drop} :
    outranks a b = true ↔ b.worth < a.worth ∨ a.worth = b.worth ∧ a.id.val ≤ b.id.val := by
  simp [outranks]

theorem outranks_trans (a b c : Drop) (first : outranks a b = true) (second : outranks b c = true) :
    outranks a c = true := by
  rw [outranks_iff] at *
  omega

theorem outranks_total (a b : Drop) : (outranks a b || outranks b a) = true := by
  rw [Bool.or_eq_true, outranks_iff, outranks_iff]
  omega

theorem mergeSort_falling (ds : List Drop) :
    (ds.mergeSort outranks).Pairwise fun a b => b.worth ≤ a.worth := by
  refine (List.pairwise_mergeSort outranks_trans outranks_total ds).imp ?_
  intro a b before
  rw [outranks_iff] at before
  omega

variable {t : Tally}

theorem byValue_ok {items : List Drop} (h : t.byValue = .ok items) :
    items = t.items.mergeSort outranks := by
  unfold byValue ranked at h
  split at h
  · exact (Except.ok.inj h).symm
  · cases h

/-- There are no two items to compare, or no worth is out of the limits. -/
def Comparable (t : Tally) : Prop := t.items.length ≤ 1 ∨ ∀ d ∈ t.items, d.fits = true

/-- No worth of an item is out of the limits, nor the sum of all gains, nor the sum of all. -/
def InLimits (t : Tally) : Prop := (∀ d ∈ t.items, d.fits = true) ∧ SumFits 0 t.items

instance (t : Tally) : Decidable t.InLimits :=
  inferInstanceAs (Decidable (_ ∧ _ ≤ _ ∧ _ ≤ _))

theorem byValue_returns : (∃ items, t.byValue = .ok items) ↔ t.Comparable := by
  unfold byValue ranked Comparable
  split
  · rename_i fits
    simpa using fits
  · rename_i unfit
    simpa using unfit

end Tally

end DropLedger
