import Mathlib

/-! Facts of lists and of failing computations that the proofs share. -/
namespace DropLedger

theorem bind_eq_ok {ε α β : Type} {x : Except ε α} {f : α → Except ε β} {b : β} :
    (x >>= f) = .ok b ↔ ∃ a, x = .ok a ∧ f a = .ok b := by
  cases x with
  | error e => simp [bind, Except.bind]
  | ok a => simp [bind, Except.bind]

theorem map_eq_ok {ε α β : Type} {x : Except ε α} {f : α → β} {b : β} :
    x.map f = .ok b ↔ ∃ a, x = .ok a ∧ f a = b := by
  cases x <;> simp [Except.map]

theorem mapM_eq_ok {ε α β : Type} {f : α → Except ε β} {as : List α} {bs : List β} :
    as.mapM f = .ok bs ↔ as.map f = bs.map .ok := by
  induction as generalizing bs with
  | nil => cases bs <;> simp [pure, Except.pure]
  | cons a as ih =>
    rw [List.mapM_cons, bind_eq_ok]
    constructor
    · rintro ⟨b, first, h⟩
      obtain ⟨others, more, h⟩ := bind_eq_ok.mp h
      cases h
      simp [first, ih.mp more]
    · intro h
      cases bs with
      | nil => cases h
      | cons b bs =>
        obtain ⟨first, others⟩ := List.cons.inj h
        exact ⟨b, first, bind_eq_ok.mpr ⟨bs, ih.mpr others, rfl⟩⟩

theorem toOption_bind {ε α β : Type} (x : Except ε α) (f : α → Except ε β) :
    (x >>= f).toOption = x.toOption >>= fun a => (f a).toOption := by
  cases x <;> rfl

theorem toOption_map {ε α β : Type} (x : Except ε α) (f : α → β) :
    (x.map f).toOption = x.toOption.map f := by
  cases x <;> rfl

theorem lookup_cons_ne {α β : Type} [BEq α] [LawfulBEq α] {key other : α} (value : β)
    (rest : List (α × β)) (h : other ≠ key) :
    ((key, value) :: rest).lookup other = rest.lookup other := by
  rw [List.lookup_cons, beq_eq_false_iff_ne.mpr h]

theorem of_lookup_one {α β : Type} [BEq α] [LawfulBEq α] {key other : α} {value found : β}
    (h : [(key, value)].lookup other = some found) : other = key ∧ found = value := by
  by_cases same : other = key
  · subst same
    rw [List.lookup_cons_self] at h
    exact ⟨rfl, (Option.some.inj h).symm⟩
  · rw [lookup_cons_ne value [] same] at h
    cases h

theorem forall_mem_of_all {α : Type} {p : α → Prop} [DecidablePred p] {as : List α}
    (h : as.all (fun a => decide (p a)) = true) : ∀ a ∈ as, p a :=
  fun a member => of_decide_eq_true (List.all_eq_true.mp h a member)

/-- A list in a strict order is told by its members. -/
theorem eq_of_same_members {α : Type} {r : α → α → Prop} {as bs : List α}
    (asymm : ∀ a b, r a b → ¬ r b a) (left : as.Pairwise r) (right : bs.Pairwise r)
    (same : ∀ a, a ∈ as ↔ a ∈ bs) : as = bs := by
  have once : ∀ cs : List α, cs.Pairwise r → cs.Nodup := by
    intro cs sorted
    refine sorted.imp ?_
    rintro a _ before rfl
    exact asymm a a before before
  have perm := (List.perm_ext_iff_of_nodup (once as left) (once bs right)).mpr same
  refine perm.eq_of_pairwise ?_ left right
  intro a b _ _ first second
  exact absurd second (asymm a b first)

end DropLedger
