import DropLedger.Proofs.Disk.Walk
import DropLedger.Proofs.Key
import DropLedger.Proofs.Lines

/-! Paths of entries, and what the disk tells of a path. -/
namespace DropLedger

namespace Path

theorem names_append_slash (raw rest : Bytes) :
    names ⟨raw ++ slash :: rest⟩ = names ⟨raw⟩ ++ names ⟨rest⟩ := by
  rw [names, splitBytes_append, List.filter_append]
  rfl

theorem names_plain {name : Bytes} (plain : PlainName name) : names ⟨name⟩ = [name] := by
  rw [names, splitBytes_of_not_mem plain.slash]
  simp [plain.some]

theorem child_ends (p : Path) (name : Bytes) : ∃ before, (p.child name).raw = before ++ name := by
  unfold child
  split
  · exact ⟨_, rfl⟩
  · exact ⟨p.raw ++ [slash], by simp⟩

theorem child_begins (p : Path) (name : Bytes) : p.raw <+: (p.child name).raw := by
  unfold child
  split <;> exact List.prefix_append _ _

variable {p : Path} {name : Bytes} (plain : PlainName name)
include plain

theorem names_child : (p.child name).names = p.names ++ [name] := by
  obtain ⟨raw⟩ := p
  unfold child
  split
  · rename_i open_end
    rcases Bool.or_eq_true _ _ ▸ open_end with empty | slashed
    · have none : raw = [] := List.isEmpty_iff.mp empty
      subst none
      exact names_plain plain
    · obtain ⟨before, rfl⟩ := List.getLast?_eq_some_iff.mp (eq_of_beq slashed)
      rw [List.append_assoc, List.singleton_append, names_append_slash, names_append_slash,
        names_plain plain]
      simp [names, splitBytes]
  · rw [names_append_slash, names_plain plain]

theorem absolute_child : (p.child name).absolute = p.absolute := by
  obtain ⟨raw⟩ := p
  cases raw with
  | nil =>
    have relative : name.head? ≠ some slash := fun first =>
      plain.slash (List.mem_of_mem_head? first)
    simpa [child, absolute] using relative
  | cons b rest =>
    unfold child
    split <;> rfl

theorem child_ne_nil : (p.child name).raw ≠ [] := by
  obtain ⟨before, whole⟩ := child_ends p name
  simp [whole, plain.some]

theorem slashed_child : (p.child name).slashed = false := by
  obtain ⟨before, whole⟩ := child_ends p name
  have other : name.getLast? ≠ some slash := fun last =>
    plain.slash (List.mem_of_mem_getLast? last)
  obtain ⟨b, last⟩ := Option.ne_none_iff_exists'.mp (mt List.getLast?_eq_none_iff.mp plain.some)
  rw [last] at other
  simpa [slashed, whole, List.getLast?_append, last] using other

theorem route_child (start : Location) : (p.child name).route start = p.route start ++ [name] := by
  unfold route
  rw [absolute_child plain, names_child plain]
  split
  · rfl
  · rw [List.append_assoc]

theorem goal_child (start : Location) :
    goal ((p.child name).route start) = goal (p.route start) ++ [name] := by
  rw [route_child plain, goal_snoc, follow_plain plain.here plain.above]

omit plain

section Turns

theorem dropHere_suffix (bs : Bytes) : dropHere bs <:+ bs := by
  fun_induction dropHere bs with
  | case1 rest ih => exact ih.trans (List.suffix_cons _ _)
  | case2 rest ih => exact ih.trans ⟨[0x2E, 0x2F], rfl⟩
  | case3 rest => exact List.suffix_rfl

theorem turn_slash {length : Nat} {bs : Bytes} (h : length ∈ turnsFrom bs.length bs) :
    ∃ rest, rest ≠ [] ∧ slash :: rest <:+ bs ∧ rest.length = length := by
  induction bs with
  | nil => cases h
  | cons b bs ih =>
    have deeper : length ∈ turnsFrom bs.length bs →
        ∃ rest, rest ≠ [] ∧ slash :: rest <:+ b :: bs ∧ rest.length = length := by
      intro member
      obtain ⟨rest, some, inside, long⟩ := ih member
      exact ⟨rest, some, inside.trans (List.suffix_cons _ _), long⟩
    rw [turnsFrom, List.length_cons, Nat.add_sub_cancel] at h
    split at h
    · rename_i turning
      rcases List.mem_cons.mp h with rfl | member
      · simp only [Bool.and_eq_true, decide_eq_true_eq] at turning
        refine ⟨bs, ?_, turning.1 ▸ List.suffix_rfl, rfl⟩
        rintro rfl
        cases turning.2
      · exact deeper member
    · exact deeper h

theorem dropHere_head (bs : Bytes) : (dropHere bs).head? ≠ some slash := by
  fun_induction dropHere bs with
  | case1 rest ih => exact ih
  | case2 rest ih => exact ih
  | case3 rest other _ =>
    intro first
    obtain ⟨more, rfl⟩ := List.head?_eq_some_iff.mp first
    exact other more rfl

theorem names_ne_nil {bs : Bytes} {b : UInt8} (member : b ∈ bs) (other : b ≠ slash) :
    names ⟨bs⟩ ≠ [] := by
  obtain ⟨run, inside, some⟩ := splitBytes_some member other
  exact List.ne_nil_of_mem (List.mem_filter.mpr ⟨inside, by simpa using some⟩)

/-- A slash stands where a path turns, and a name behind it. -/
theorem turn_splits {length : Nat} (h : length ∈ p.turns) :
    (p.upTo length).raw ≠ [] ∧
      ∃ rest, p.raw = (p.upTo length).raw ++ slash :: rest ∧ names ⟨rest⟩ ≠ [] := by
  obtain ⟨back, some, ⟨lead, text⟩, rfl⟩ := turn_slash h
  obtain ⟨junk, whole⟩ := dropHere_suffix p.raw.reverse
  rw [← text] at whole
  have turned : p.raw = back.reverse ++ slash :: (lead.reverse ++ junk.reverse) := by
    rw [← List.reverse_reverse p.raw, ← whole]
    simp
  have beginning : (p.upTo back.length).raw = back.reverse := by
    rw [upTo, turned]
    exact List.take_left' (by simp)
  have first := dropHere_head p.raw.reverse
  rw [← text] at first
  refine ⟨by simpa [beginning] using some, _, by rw [beginning]; exact turned, ?_⟩
  cases lead with
  | nil => exact absurd rfl first
  | cons b lead =>
    refine names_ne_nil (b := b) (by simp) ?_
    rintro rfl
    exact first rfl

theorem names_turn {length : Nat} (h : length ∈ p.turns) : (p.upTo length).names <+: p.names := by
  obtain ⟨_, rest, whole, _⟩ := turn_splits h
  obtain ⟨raw⟩ := p
  dsimp only at whole
  refine ⟨names ⟨rest⟩, ?_⟩
  conv => rhs; rw [whole]
  exact (names_append_slash _ _).symm

theorem names_turn_child (plain : PlainName name) {length : Nat}
    (h : length ∈ (p.child name).turns) : ((p.child name).upTo length).names <+: p.names := by
  obtain ⟨_, rest, whole, beyond⟩ := turn_splits h
  have split : p.names ++ [name] = ((p.child name).upTo length).names ++ names ⟨rest⟩ := by
    rw [← names_child plain, ← names_append_slash, ← whole]
  rcases List.prefix_concat_iff.mp ⟨names ⟨rest⟩, split.symm⟩ with all | part
  · rw [all] at split
    exact absurd (List.append_right_eq_self.mp split.symm) beyond
  · exact part

theorem absolute_turn {length : Nat} (h : length ∈ p.turns) :
    (p.upTo length).absolute = p.absolute := by
  obtain ⟨some, rest, whole, _⟩ := turn_splits h
  obtain ⟨b, bs, begun⟩ := List.exists_cons_of_ne_nil some
  rw [begun] at whole
  rw [absolute, absolute, whole, begun]
  rfl

theorem route_beginning {q : Path} (start : Location) (same : q.absolute = p.absolute)
    (h : q.names <+: p.names) : q.route start <+: p.route start := by
  unfold route
  rw [same]
  split
  · exact h
  · exact (List.prefix_append_right_inj start).mpr h

end Turns

end Path

end DropLedger
