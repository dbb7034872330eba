import DropLedger.Proofs.Blank
import DropLedger.Text.Lower

/-! Small letters stay as they are, and nothing that can be seen becomes white space. Both come down
to the table of runs: the image of a run meets no run, no white space and no special case. -/
namespace DropLedger.Text

/-- The least and the greatest small form of a run. -/
def CaseRun.low (r : CaseRun) : Nat := (r.first + r.shift).toNat

def CaseRun.high (r : CaseRun) : Nat := (r.last + r.shift).toNat

/-- No small form of a letter of the first run belongs to the second. -/
def CaseRun.apart (r q : CaseRun) : Bool :=
  r.high.blt q.first || q.last.blt r.low ||
    ((r.stride == 2 || r.first == r.last) && q.stride == 2 && r.low % 2 != q.first % 2)

/-- White space and the dotted capital I, as runs. -/
def keptRuns : List CaseRun := [
  ⟨9, 13, 1, 0⟩, ⟨0x20, 0x20, 1, 0⟩, ⟨0x85, 0x85, 1, 0⟩, ⟨0xA0, 0xA0, 1, 0⟩, ⟨0x1680, 0x1680, 1, 0⟩,
  ⟨0x2000, 0x200A, 1, 0⟩, ⟨0x2028, 0x2029, 1, 0⟩, ⟨0x202F, 0x202F, 1, 0⟩, ⟨0x205F, 0x205F, 1, 0⟩,
  ⟨0x3000, 0x3000, 1, 0⟩, ⟨0x130, 0x130, 1, 0⟩]

/-- The small forms of a run are characters. -/
def CaseRun.valid (r : CaseRun) : Bool :=
  0 ≤ r.first + r.shift && (r.high.blt 0xD800 || ((0xDFFF).blt r.low && r.high.blt 0x110000))

theorem runs_valid : caseRuns.all CaseRun.valid = true := by decide +kernel

theorem runs_apart :
    (caseRuns.all fun r => (caseRuns ++ keptRuns).all fun q => r.apart q) = true := by
  decide +kernel

theorem low_le_image {r : CaseRun} {n : Nat} (valid : r.valid = true) (has : r.has n = true) :
    r.low ≤ (n + r.shift).toNat ∧ (n + r.shift).toNat ≤ r.high ∧
      ((n + r.shift).toNat : Int) = n + r.shift ∧ (r.low : Int) = r.first + r.shift := by
  simp only [CaseRun.has, Bool.and_eq_true, decide_eq_true_eq] at has
  simp only [CaseRun.valid, Bool.and_eq_true, decide_eq_true_eq] at valid
  simp only [CaseRun.low, CaseRun.high]
  omega

theorem apart_sound {r q : CaseRun} {n : Nat} (valid : r.valid = true) (apart : r.apart q = true)
    (has : r.has n = true) : q.has (n + r.shift).toNat = false := by
  obtain ⟨low, high, image, first⟩ := low_le_image valid has
  simp only [CaseRun.has, Bool.and_eq_true, decide_eq_true_eq, beq_iff_eq] at has
  simp only [CaseRun.apart, Bool.or_eq_true, Bool.and_eq_true, beq_iff_eq, bne_iff_ne,
    Nat.blt_eq] at apart
  rcases Bool.eq_false_or_eq_true (q.has (n + r.shift).toNat) with inside | outside
  · exfalso
    simp only [CaseRun.has, Bool.and_eq_true, decide_eq_true_eq, beq_iff_eq] at inside
    rcases apart with (below | above) | ⟨⟨two | one, even⟩, odd⟩
    · omega
    · omega
    · rw [two] at has
      rw [even] at inside
      omega
    · rw [even] at inside
      omega
  · exact outside

theorem image_toNat {r : CaseRun} {n : Nat} (valid : r.valid = true) (has : r.has n = true) :
    (Char.ofNat (n + r.shift).toNat).toNat = (n + r.shift).toNat := by
  obtain ⟨low, high, _, _⟩ := low_le_image valid has
  simp only [CaseRun.valid, Bool.and_eq_true, Bool.or_eq_true, Nat.blt_eq] at valid
  have isChar : (n + r.shift).toNat.isValidChar := by
    rcases valid.2 with below | ⟨above, within⟩
    · exact .inl (by omega)
    · exact .inr ⟨by omega, by omega⟩
  rw [Char.ofNat, dif_pos isChar]
  rfl

theorem blank_run {c : Char} (h : isBlank c = true) : ∃ q ∈ keptRuns, q.has c.toNat = true := by
  have any : keptRuns.any (·.has c.toNat) = true := by
    simp only [isBlank, Bool.or_eq_true, Bool.and_eq_true, decide_eq_true_eq, beq_iff_eq] at h
    simp only [keptRuns, List.any_cons, List.any_nil, CaseRun.has, Nat.mod_one, Bool.or_eq_true,
      Bool.and_eq_true, decide_eq_true_eq, beq_iff_eq, and_true]
    omega
  exact List.any_eq_true.mp any

/-- A character that lowering leaves as it is, wherever it stands. -/
def Small (c : Char) : Prop := c ≠ 'Σ' ∧ lowerChar c = [c]

theorem small_of_no_run {c : Char} (h : ∀ q ∈ caseRuns, q.has c.toNat = false) (dotted : c ≠ 'İ') :
    Small c := by
  have none : caseRuns.find? (·.has c.toNat) = none :=
    List.find?_eq_none.mpr fun q hq => by simp [h q hq]
  constructor
  · rintro rfl
    have sigma : ⟨0x3A3, 0x3AB, 1, 32⟩ ∈ caseRuns := by decide
    exact absurd (h _ sigma) (by decide)
  · rw [lowerChar, if_neg dotted, none]

theorem image_clear {r q : CaseRun} (hr : r ∈ caseRuns) (hq : q ∈ caseRuns ++ keptRuns) {n : Nat}
    (has : r.has n = true) : q.has (Char.ofNat (n + r.shift).toNat).toNat = false := by
  have valid := List.all_eq_true.mp runs_valid r hr
  have apart := List.all_eq_true.mp (List.all_eq_true.mp runs_apart r hr) q hq
  rw [image_toNat valid has]
  exact apart_sound valid apart has

theorem lowerChar_small {c d : Char} (h : d ∈ lowerChar c) :
    Small d ∧ (isBlank c = false → isBlank d = false) := by
  unfold lowerChar at h
  split at h
  · simp only [List.mem_cons, List.not_mem_nil, or_false] at h
    rcases h with rfl | rfl
    · exact ⟨⟨by decide, by decide⟩, fun _ => by decide⟩
    · exact ⟨⟨by decide, by decide⟩, fun _ => by decide⟩
  · rename_i dotted
    split at h
    · rename_i r found
      have hr := List.mem_of_find?_eq_some found
      have has : r.has c.toNat = true :=
        List.find?_some (p := fun q : CaseRun => q.has c.toNat) found
      obtain rfl := List.mem_singleton.mp h
      have clear := fun q hq => image_clear (q := q) hr hq has
      constructor
      · refine small_of_no_run (fun q hq => clear q (List.mem_append_left _ hq)) ?_
        intro same
        have kept : ⟨0x130, 0x130, 1, 0⟩ ∈ caseRuns ++ keptRuns :=
          List.mem_append_right _ (by decide)
        have outside := clear _ kept
        rw [same] at outside
        revert outside
        decide
      · intro _
        rcases Bool.eq_false_or_eq_true (isBlank (.ofNat (c.toNat + r.shift).toNat)) with
          blank | visible
        · obtain ⟨q, hq, inside⟩ := blank_run blank
          rw [clear q (List.mem_append_right _ hq)] at inside
          cases inside
        · exact visible
    · rename_i none
      obtain rfl := List.mem_singleton.mp h
      refine ⟨small_of_no_run (fun q hq => ?_) dotted, id⟩
      have := List.find?_eq_none.mp none q hq
      simpa using this

/-- What a character comes to in its place. -/
def lowered (before : List Char) (c : Char) (rest : List Char) : List Char :=
  if c = 'Σ' then (if meetsCased before && !meetsCased rest then ['ς'] else ['σ'])
  else lowerChar c

theorem lowerFrom_cons (before : List Char) (c : Char) (rest : List Char) :
    lowerFrom before (c :: rest) = lowered before c rest ++ lowerFrom (c :: before) rest := rfl

theorem lowered_small {before rest : List Char} {c d : Char} (h : d ∈ lowered before c rest) :
    Small d ∧ (isBlank c = false → isBlank d = false) := by
  unfold lowered at h
  split at h
  · split at h
    · obtain rfl := List.mem_singleton.mp h
      exact ⟨⟨by decide, by decide⟩, fun _ => by decide⟩
    · obtain rfl := List.mem_singleton.mp h
      exact ⟨⟨by decide, by decide⟩, fun _ => by decide⟩
  · exact lowerChar_small h

theorem lowered_ne_nil (before : List Char) (c : Char) (rest : List Char) :
    lowered before c rest ≠ [] := by
  unfold lowered lowerChar
  split
  · split <;> simp
  · split
    · simp
    · split <;> simp

theorem lowerFrom_small {before cs : List Char} {d : Char} (h : d ∈ lowerFrom before cs) :
    Small d := by
  induction cs generalizing before with
  | nil => cases h
  | cons c cs ih =>
    rw [lowerFrom_cons, List.mem_append] at h
    rcases h with h | h
    · exact (lowered_small h).1
    · exact ih h

theorem lowerFrom_of_small {before cs : List Char} (h : ∀ c ∈ cs, Small c) :
    lowerFrom before cs = cs := by
  induction cs generalizing before with
  | nil => rfl
  | cons c cs ih =>
    have first := h c List.mem_cons_self
    rw [lowerFrom_cons, ih fun d hd => h d (List.mem_cons_of_mem c hd), lowered, if_neg first.1,
      first.2, List.singleton_append]

theorem lowerFrom_trimmed {before cs : List Char} (h : Trimmed cs) :
    Trimmed (lowerFrom before cs) := by
  constructor
  · intro d hd
    cases cs with
    | nil => cases hd
    | cons c cs =>
      obtain ⟨e, es, front⟩ := List.exists_cons_of_ne_nil (lowered_ne_nil before c cs)
      rw [lowerFrom_cons, front] at hd
      cases Option.some.inj hd
      exact (lowered_small (front ▸ List.mem_cons_self)).2 (h.1 c rfl)
  · have last := h.2
    clear h
    induction cs generalizing before with
    | nil => exact fun d hd => nomatch hd
    | cons c cs ih =>
      intro d hd
      rw [lowerFrom_cons] at hd
      cases cs with
      | nil =>
        rw [lowerFrom, List.append_nil] at hd
        exact (lowered_small (List.mem_of_getLast? hd)).2 (last c rfl)
      | cons b bs =>
        have some : lowerFrom (c :: before) (b :: bs) ≠ [] := by
          rw [lowerFrom_cons]
          simp [lowered_ne_nil]
        have end_some := List.getLast?_eq_some_getLast some
        rw [List.getLast?_append, end_some, Option.some_or] at hd
        exact ih (fun e he => last e (by rwa [List.getLast?_cons_cons])) d (end_some.trans hd)

end DropLedger.Text
