import DropLedger.Proofs.Tally

/-! What a summary tells, and when there is one. A worth that no value can hold is found out before
anything is summed. After that only the peak and the end of the sums matter, as they are taken in
descending order of worth. -/
namespace DropLedger

section Highest

variable {ns : List Signed32} {n : Signed32}

theorem greatest?_eq_none : greatest? ns = none ↔ ns = [] := by
  cases ns with
  | nil => simp [greatest?]
  | cons n ns => cases others : greatest? ns <;> simp [greatest?, others]

theorem greatest?_eq_some : greatest? ns = some n ↔ n ∈ ns ∧ ∀ m ∈ ns, m.val ≤ n.val := by
  induction ns generalizing n with
  | nil => simp [greatest?]
  | cons a ns ih =>
    cases others : greatest? ns with
    | none =>
      obtain rfl := greatest?_eq_none.mp others
      constructor
      · intro h
        simp [greatest?] at h
        simp [h]
      · rintro ⟨member, _⟩
        simp [greatest?, List.mem_singleton.mp member]
    | some b =>
      obtain ⟨member, above⟩ := ih.mp others
      have greatest : greatest? (a :: ns) = some (if a.val < b.val then b else a) := by
        simp [greatest?, others]
      rw [greatest, Option.some.injEq]
      constructor
      · rintro rfl
        split
        · rename_i below
          exact ⟨List.mem_cons_of_mem _ member,
            List.forall_mem_cons.mpr ⟨Int.le_of_lt below, above⟩⟩
        · rename_i not_below
          refine ⟨List.mem_cons_self, List.forall_mem_cons.mpr ⟨Int.le_refl _, ?_⟩⟩
          intro m later
          exact (above m later).trans (Int.not_lt.mp not_below)
      · rintro ⟨is_member, is_above⟩
        obtain ⟨above_a, above_rest⟩ := List.forall_mem_cons.mp is_above
        have above_b := above_rest b member
        apply Bounded.ext
        rcases List.mem_cons.mp is_member with rfl | later
        · split
          · omega
          · rfl
        · have below_b := above n later
          split <;> omega

theorem knownKillCount_eq_some {k : Kill} :
    k.knownKillCount = some n ↔ k.killCount = n ∧ n ≠ unknown := by
  by_cases same : k.killCount = unknown
  · simp only [Kill.knownKillCount, Kill.known, same, if_true, reduceCtorEq, false_iff]
    rintro ⟨rfl, known⟩
    exact known rfl
  · simp only [Kill.knownKillCount, Kill.known, same, if_false, Option.some.injEq]
    constructor
    · rintro rfl
      exact ⟨rfl, same⟩
    · exact And.left

theorem mem_knownKillCounts {ks : List Kill} :
    n ∈ ks.filterMap (·.knownKillCount) ↔ (∃ k ∈ ks, k.killCount = n) ∧ n ≠ unknown := by
  simp only [List.mem_filterMap, knownKillCount_eq_some]
  constructor
  · rintro ⟨k, member, same, known⟩
    exact ⟨⟨k, member, same⟩, known⟩
  · rintro ⟨⟨k, member, same⟩, known⟩
    exact ⟨k, member, same, known⟩

end Highest

/-- The integers that a value can hold. -/
def InSigned64 (n : Int) : Prop := -9223372036854775808 ≤ n ∧ n ≤ 9223372036854775807

theorem fits_iff_inSigned64 {d : Drop} : d.fits = true ↔ InSigned64 d.worth := by
  simp [Drop.fits, InSigned64]

/-- An item alone is found out when its value is taken, one of several when they are put in
order. -/
theorem Tally.product_overflows {t : Tally} (unfit : ¬∀ d ∈ t.items, d.fits = true) :
    (t.byValue >>= fun items => worthTogether items) = .error .product := by
  simp only [not_forall, Bool.not_eq_true] at unfit
  obtain ⟨d, member, unfit⟩ := unfit
  by_cases single : t.items.length ≤ 1
  · have only : t.items = [d] := by
      have one := List.length_pos_of_mem member
      obtain ⟨e, whole⟩ := List.length_eq_one_iff.mp (Nat.le_antisymm single one)
      rw [whole] at member ⊢
      rw [List.mem_singleton.mp member]
    have ordered : t.byValue = .ok [d] := by simp [Tally.byValue, Tally.ranked, only]
    have summed : worthTogether [d] = .error .product := by
      rw [worthTogether, valueFrom, Drop.value_unfit unfit]
      rfl
    rw [ordered]
    exact summed
  · have some_unfit : t.items.all Drop.fits = false :=
      List.all_eq_false.mpr ⟨d, member, by simp [unfit]⟩
    simp [Tally.byValue, Tally.ranked, single, some_unfit, bind, Except.bind]

/-- Items whose worths fit are summed by worth as they would be in any order, exactly or not at
all. -/
theorem Tally.worthTogether_cases {t : Tally} (fits : ∀ d ∈ t.items, d.fits = true) :
    (SumFits 0 t.items ∧ ∃ total, worthTogether (t.items.mergeSort outranks) = .ok total ∧
        total.val = worths t.items) ∨
      (¬SumFits 0 t.items ∧ worthTogether (t.items.mergeSort outranks) = .error .sum) := by
  have perm := List.mergeSort_perm t.items outranks
  have same : worths (t.items.mergeSort outranks) = worths t.items := (perm.map _).sum_eq
  have sorted_fits : ∀ d ∈ t.items.mergeSort outranks, d.fits = true :=
    fun d member => fits d (perm.mem_iff.mp member)
  rcases valueFrom_cases Signed64.zero sorted_fits (mergeSort_falling t.items) with
    ⟨summable, total, summed, exact_worth⟩ | ⟨out, failed⟩
  · refine .inl ⟨(sumFits_perm perm).mp summable, total, summed, ?_⟩
    rw [exact_worth, same]
    exact Int.zero_add _
  · exact .inr ⟨fun summable => out ((sumFits_perm perm).mpr summable), failed⟩

namespace Summary

theorem ofKills_unfit (entity : String) {ks : List Kill}
    (unfit : ¬∀ d ∈ (Tally.ofKills ks).items, d.fits = true) :
    ofKills entity ks = .error .product := by
  have overflows := Tally.product_overflows unfit
  unfold ofKills
  cases ordered : (Tally.ofKills ks).byValue with
  | error fault =>
    rw [ordered] at overflows
    cases overflows
    rfl
  | ok items =>
    rw [ordered] at overflows
    change worthTogether items = _ at overflows
    change (worthTogether items >>= _) = _
    rw [overflows]
    rfl

theorem ofKills_cases (entity : String) (ks : List Kill) :
    ((¬∀ d ∈ (Tally.ofKills ks).items, d.fits = true) ∧ ofKills entity ks = .error .product) ∨
      ((∀ d ∈ (Tally.ofKills ks).items, d.fits = true) ∧ ¬SumFits 0 (Tally.ofKills ks).items ∧
        ofKills entity ks = .error .sum) ∨
      ((∀ d ∈ (Tally.ofKills ks).items, d.fits = true) ∧ SumFits 0 (Tally.ofKills ks).items ∧
        ∃ items total, (Tally.ofKills ks).byValue = .ok items ∧
          total.val = worths (Tally.ofKills ks).items ∧
          ofKills entity ks =
            .ok ⟨entity, ks.length, greatest? (ks.filterMap (·.knownKillCount)), total, items⟩) := by
  by_cases fits : ∀ d ∈ (Tally.ofKills ks).items, d.fits = true
  · right
    obtain ⟨items, ordered⟩ := Tally.byValue_returns.mpr (.inr fits)
    have whole : ofKills entity ks = (worthTogether items >>= fun total =>
        .ok ⟨entity, ks.length, greatest? (ks.filterMap (·.knownKillCount)), total, items⟩) := by
      rw [ofKills, ordered]
      rfl
    obtain rfl := Tally.byValue_ok ordered
    rcases Tally.worthTogether_cases fits with ⟨summable, total, summed, exact_worth⟩ |
      ⟨out, failed⟩
    · rw [summed] at whole
      exact .inr ⟨fits, summable, _, total, ordered, exact_worth, whole⟩
    · rw [failed] at whole
      exact .inl ⟨fits, out, whole⟩
  · exact .inl ⟨fits, ofKills_unfit entity fits⟩

theorem ofKills_returns (entity : String) (ks : List Kill) :
    (∃ m, ofKills entity ks = .ok m) ↔ (Tally.ofKills ks).InLimits := by
  unfold Tally.InLimits
  rcases ofKills_cases entity ks with ⟨unfit, ended⟩ | ⟨_, out, ended⟩ |
    ⟨fits, summable, items, total, _, _, ended⟩
  · simp [ended, unfit]
  · simp [ended, out]
  · rw [ended]
    exact ⟨fun _ => ⟨fits, summable⟩, fun _ => ⟨_, rfl⟩⟩

/-- What a summary of kills tells of them. -/
structure Tells (m : Summary) (entity : String) (ks : List Kill) : Prop where
  entity : m.entity = entity
  killTotal : m.killTotal = ks.length
  totalValue : m.totalValue.val = worths (Tally.ofKills ks).items
  byValue : (Tally.ofKills ks).byValue = .ok m.items
  items : m.items.Perm (Tally.ofKills ks).items
  falling : m.items.Pairwise fun a b =>
    b.worth < a.worth ∨ a.worth = b.worth ∧ a.id.val ≤ b.id.val
  unknown : m.highestKillCount = none ↔ ∀ k ∈ ks, k.killCount = unknown
  highest : ∀ n, m.highestKillCount = some n ↔
    (∃ k ∈ ks, k.killCount = n) ∧ n ≠ DropLedger.unknown ∧
      ∀ k ∈ ks, k.killCount ≠ DropLedger.unknown → k.killCount.val ≤ n.val

theorem tells_ofKills {entity : String} {ks : List Kill} {items : List Drop} {total : Signed64}
    (ordered : (Tally.ofKills ks).byValue = .ok items)
    (summed : total.val = worths (Tally.ofKills ks).items) :
    Tells ⟨entity, ks.length, greatest? (ks.filterMap (·.knownKillCount)), total, items⟩
      entity ks := by
  obtain rfl := Tally.byValue_ok ordered
  have sorted := List.pairwise_mergeSort Tally.outranks_trans Tally.outranks_total
    (Tally.ofKills ks).items
  refine ⟨rfl, rfl, summed, ordered, List.mergeSort_perm _ _, ?_, ?_, ?_⟩
  · exact sorted.imp fun before => Tally.outranks_iff.mp before
  · simp only [greatest?_eq_none, List.eq_nil_iff_forall_not_mem, mem_knownKillCounts]
    constructor
    · intro none k member
      by_contra known
      exact none k.killCount ⟨⟨k, member, rfl⟩, known⟩
    · rintro all n ⟨⟨k, member, rfl⟩, known⟩
      exact known (all k member)
  · intro n
    rw [greatest?_eq_some, mem_knownKillCounts, and_assoc]
    refine and_congr_right fun _ => and_congr_right fun _ => ?_
    constructor
    · intro above k member known
      exact above _ (mem_knownKillCounts.mpr ⟨⟨k, member, rfl⟩, known⟩)
    · intro above m member
      obtain ⟨⟨k, inside, rfl⟩, known⟩ := mem_knownKillCounts.mp member
      exact above k inside known

/-- A summary breaks off on a product if and only if no value can hold the worth of some item; else
on a sum if and only if all gains are too much together or the whole is too little; else it tells
the exact worth of all items. -/
theorem ofKills_exact (entity : String) (ks : List Kill) :
    (ofKills entity ks = .error .product ↔
        ∃ d ∈ (Tally.ofKills ks).items, ¬InSigned64 d.worth) ∧
      (ofKills entity ks = .error .sum ↔
        (∀ d ∈ (Tally.ofKills ks).items, InSigned64 d.worth) ∧
          (9223372036854775807 < gains (Tally.ofKills ks).items ∨
            worths (Tally.ofKills ks).items < -9223372036854775808)) ∧
      ((∃ m, ofKills entity ks = .ok m ∧ m.Tells entity ks) ↔
        (∀ d ∈ (Tally.ofKills ks).items, InSigned64 d.worth) ∧
          gains (Tally.ofKills ks).items ≤ 9223372036854775807 ∧
            -9223372036854775808 ≤ worths (Tally.ofKills ks).items) := by
  have within : (gains (Tally.ofKills ks).items ≤ 9223372036854775807 ∧
      -9223372036854775808 ≤ worths (Tally.ofKills ks).items) ↔
        SumFits 0 (Tally.ofKills ks).items := by
    simp [SumFits]
  have beyond : (9223372036854775807 < gains (Tally.ofKills ks).items ∨
      worths (Tally.ofKills ks).items < -9223372036854775808) ↔
        ¬SumFits 0 (Tally.ofKills ks).items := by
    rw [← within]
    omega
  have unfit_iff : (∃ d ∈ (Tally.ofKills ks).items, ¬InSigned64 d.worth) ↔
      ¬∀ d ∈ (Tally.ofKills ks).items, d.fits = true := by
    simp only [fits_iff_inSigned64, not_forall, exists_prop]
  rw [within, beyond, unfit_iff]
  simp only [← fits_iff_inSigned64]
  rcases ofKills_cases entity ks with ⟨unfit, ended⟩ | ⟨fits, out, ended⟩ |
    ⟨fits, summable, items, total, ordered, summed, ended⟩
  · simp [ended, unfit]
  · simpa [ended, out] using fits
  · rw [ended]
    refine ⟨by simpa using fits, by simp [summable], ?_⟩
    exact ⟨fun _ => ⟨fits, summable⟩, fun _ => ⟨_, rfl, tells_ofKills ordered summed⟩⟩

end Summary

end DropLedger
