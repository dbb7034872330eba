import DropLedger.Proofs.Disk.Lookup

/-! The beginnings of a path that name the directories on its way, and those of the path of an
entry. -/
namespace DropLedger

namespace Path

/-- A path to a directory on the way to what another path names. -/
structure Begins (q p : Path) : Prop where
  named : q.raw ≠ []
  written : q.raw <+: p.raw
  absolute : q.absolute = p.absolute
  names : ∃ rest, rest ≠ [] ∧ p.names = q.names ++ rest

theorem Begins.route {p q : Path} (begins : q.Begins p) (start : Location) :
    ∃ rest, rest ≠ [] ∧ p.route start = q.route start ++ rest := by
  obtain ⟨rest, some, whole⟩ := begins.names
  refine ⟨rest, some, ?_⟩
  unfold Path.route
  rw [begins.absolute, whole]
  split
  · rfl
  · rw [List.append_assoc]

variable {p : Path} {name : Bytes} {length : Nat}

theorem upTo_begins (turn : length ∈ p.turns) : (p.upTo length).Begins p := by
  obtain ⟨named, rest, whole, more⟩ := turn_splits turn
  refine ⟨named, List.take_prefix _ _, absolute_turn turn, names ⟨rest⟩, more, ?_⟩
  obtain ⟨raw⟩ := p
  dsimp only at whole
  conv => lhs; rw [whole]
  exact names_append_slash _ _

theorem dropHere_of_endsName {bs : Bytes} (h : endsName bs = true) : dropHere bs = bs := by
  unfold endsName at h
  unfold dropHere
  split at h <;> simp_all

theorem turn_lt {bs : Bytes} (h : length ∈ turnsFrom bs.length bs) : length < bs.length := by
  obtain ⟨rest, _, inside, rfl⟩ := turn_slash h
  exact inside.length_le

theorem turnsFrom_falling (bs : Bytes) :
    (turnsFrom bs.length bs).Pairwise fun n m =>
      (upTo ⟨bs.reverse⟩ m).Begins (upTo ⟨bs.reverse⟩ n) := by
  induction bs with
  | nil => exact .nil
  | cons b bs ih =>
    have shorter : ∀ n ≤ bs.length, upTo ⟨(b :: bs).reverse⟩ n = upTo ⟨bs.reverse⟩ n := by
      intro n within
      simp [upTo, List.take_append_of_le_length, within]
    have later : (turnsFrom bs.length bs).Pairwise fun n m =>
        (upTo ⟨(b :: bs).reverse⟩ m).Begins (upTo ⟨(b :: bs).reverse⟩ n) := by
      refine ih.imp_of_mem ?_
      intro n m at_n at_m begins
      rwa [shorter n (turn_lt at_n).le, shorter m (turn_lt at_m).le]
    rw [turnsFrom, List.length_cons, Nat.add_sub_cancel]
    split
    · rename_i turning
      simp only [Bool.and_eq_true, decide_eq_true_eq] at turning
      refine List.pairwise_cons.mpr ⟨?_, later⟩
      intro m turn
      have whole : upTo ⟨bs.reverse⟩ bs.length = ⟨bs.reverse⟩ := by simp [upTo]
      rw [shorter m (turn_lt turn).le, shorter bs.length le_rfl, whole]
      apply upTo_begins
      simpa [turns, dropHere_of_endsName turning.2] using turn
    · exact later

theorem dropHere_begins (p : Path) : (dropHere p.raw.reverse).reverse <+: p.raw := by
  simpa using List.reverse_prefix.mpr (dropHere_suffix p.raw.reverse)

theorem turns_falling (p : Path) :
    (p.raw.length :: p.turns).Pairwise fun n m => (p.upTo m).Begins (p.upTo n) := by
  have whole : p.upTo p.raw.length = p := by simp [upTo]
  refine List.pairwise_cons.mpr ⟨?_, ?_⟩
  · intro m turn
    rw [whole]
    exact upTo_begins turn
  · obtain ⟨junk, text⟩ := dropHere_begins p
    have same : ∀ n ≤ (dropHere p.raw.reverse).length,
        upTo ⟨(dropHere p.raw.reverse).reverse⟩ n = p.upTo n := by
      intro n within
      rw [← List.length_reverse] at within
      have front := (List.take_append_of_le_length within).symm.trans (congrArg (List.take n) text)
      exact congrArg Path.mk front
    refine (turnsFrom_falling _).imp_of_mem ?_
    intro n m at_n at_m begins
    rwa [same n (turn_lt at_n).le, same m (turn_lt at_m).le] at begins

/-- What is dropped from the end of a path holds no name but the one that stays. -/
theorem names_dropHere (bs : Bytes) :
    ∃ stays, names ⟨bs.reverse⟩ = names ⟨(dropHere bs).reverse⟩ ++ stays ∧ above ∉ stays := by
  fun_induction dropHere bs with
  | case1 rest ih =>
    obtain ⟨stays, whole, only⟩ := ih
    refine ⟨stays, ?_, only⟩
    rw [← whole, List.reverse_cons]
    exact (names_append_slash _ []).trans (List.append_nil _)
  | case2 rest ih =>
    obtain ⟨stays, whole, only⟩ := ih
    refine ⟨stays ++ [here], ?_, by simpa [above, here] using only⟩
    rw [← List.append_assoc, ← whole]
    have split : (0x2E :: 0x2F :: rest).reverse = rest.reverse ++ slash :: here := by
      simp [slash, here]
    rw [split]
    exact names_append_slash _ here
  | case3 rest => exact ⟨[], by simp, by simp⟩

/-- A path leads where it does without what stays in place at its end. -/
theorem route_dropHere (leads : dropHere p.raw.reverse ≠ []) (start : Location) :
    ∃ stays, p.route start = (p.upTo (dropHere p.raw.reverse).length).route start ++ stays ∧
      above ∉ stays := by
  obtain ⟨stays, whole, only⟩ := names_dropHere p.raw.reverse
  obtain ⟨junk, text⟩ := dropHere_begins p
  have front : p.upTo (dropHere p.raw.reverse).length = ⟨(dropHere p.raw.reverse).reverse⟩ := by
    have taken := List.prefix_iff_eq_take.mp (dropHere_begins p)
    rw [List.length_reverse] at taken
    exact congrArg Path.mk taken.symm
  have absolute : absolute ⟨(dropHere p.raw.reverse).reverse⟩ = p.absolute := by
    have some : (dropHere p.raw.reverse).reverse ≠ [] := by simpa using leads
    obtain ⟨b, begun, begins⟩ := List.exists_cons_of_ne_nil some
    rw [begins] at text ⊢
    unfold Path.absolute
    rw [← text]
    rfl
  rw [List.reverse_reverse] at whole
  refine ⟨stays, ?_, only⟩
  unfold Path.route
  rw [front, absolute, whole]
  split
  · rfl
  · rw [List.append_assoc]

theorem turnsFrom_clean {bs : Bytes} (clean : slash ∉ bs) (rest : Bytes) :
    turnsFrom (bs ++ rest).length (bs ++ rest) = turnsFrom rest.length rest := by
  induction bs with
  | nil => rfl
  | cons b bs ih =>
    simp only [List.mem_cons, not_or] at clean
    have other : b ≠ slash := Ne.symm clean.1
    simp [turnsFrom, other, ← ih clean.2]

theorem turnsFrom_slash (bs : Bytes) :
    turnsFrom (slash :: bs).length (slash :: bs) =
      if dropHere bs = [] then []
      else (dropHere bs).length :: turnsFrom (dropHere bs).length (dropHere bs) := by
  fun_induction dropHere bs with
  | case1 rest ih =>
    rw [← ih]
    simp [turnsFrom, endsName, slash]
  | case2 rest ih =>
    rw [← ih]
    simp [turnsFrom, endsName, slash]
  | case3 rest not_slash not_here =>
    cases rest with
    | nil => simp [turnsFrom, endsName]
    | cons b rest =>
      have ends : endsName (b :: rest) = true := by
        unfold endsName
        split <;> simp_all
      simp [turnsFrom, ends]

theorem child_reverse (p : Path) (name : Bytes) :
    (p.raw = [] ∧ (p.child name).raw.reverse = name.reverse) ∨
      ∃ back, (p.child name).raw.reverse = name.reverse ++ slash :: back ∧
        dropHere back = dropHere p.raw.reverse := by
  unfold child
  split
  · rename_i open_end
    rcases Bool.or_eq_true _ _ ▸ open_end with empty | slashed
    · have none : p.raw = [] := List.isEmpty_iff.mp empty
      exact .inl ⟨none, by simp [none]⟩
    · obtain ⟨before, whole⟩ := List.getLast?_eq_some_iff.mp (eq_of_beq slashed)
      refine .inr ⟨before.reverse, by simp [whole], ?_⟩
      simp [whole, dropHere, slash]
  · exact .inr ⟨p.raw.reverse, by simp, rfl⟩

section Child

variable (plain : PlainName name)
include plain

theorem dropHere_plain (rest : Bytes) : dropHere (name.reverse ++ rest) = name.reverse ++ rest := by
  have clean : slash ∉ name.reverse := by simpa using plain.slash
  have some : name.reverse ≠ [] := by simpa using plain.some
  have moves : name.reverse ≠ here := fun same => plain.here (by simpa [here] using same)
  generalize name.reverse = bs at clean some moves
  unfold dropHere
  split
  · rename_i whole
    cases bs with
    | nil => exact absurd rfl some
    | cons b bs => simp_all [slash]
  · rename_i whole
    cases bs with
    | nil => exact absurd rfl some
    | cons b bs => cases bs <;> simp_all [slash, here]
  · rfl

theorem turns_child : (p.child name).turns =
    if dropHere p.raw.reverse = [] then [] else (dropHere p.raw.reverse).length :: p.turns := by
  have clean : slash ∉ name.reverse := by simpa using plain.slash
  rcases child_reverse p name with ⟨none, whole⟩ | ⟨back, whole, same⟩
  · have kept := dropHere_plain plain []
    have straight := turnsFrom_clean clean []
    rw [List.append_nil] at kept straight
    simp only [turns, whole, kept, none]
    exact straight
  · simp only [turns, whole, dropHere_plain plain, turnsFrom_clean clean, turnsFrom_slash, same]

end Child

end Path

end DropLedger
