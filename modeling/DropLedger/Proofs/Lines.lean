import DropLedger.Bytes

/-! Cutting bytes at a separator, and putting a line after them. Runs never reach across a
separator, so what stands before one and what stands after it can be looked at alone. -/
namespace DropLedger

variable {separator : UInt8}

theorem splitBytes_ne_nil (bs : Bytes) : splitBytes separator bs ≠ [] := by
  cases bs with
  | nil => simp [splitBytes]
  | cons b rest =>
    unfold splitBytes
    split
    · simp
    · split <;> simp

theorem splitBytes_cons_of_ne {b : UInt8} {rest run : Bytes} {runs : List Bytes}
    (other : b ≠ separator) (h : splitBytes separator rest = run :: runs) :
    splitBytes separator (b :: rest) = (b :: run) :: runs := by
  rw [splitBytes, if_neg other, h]

theorem splitBytes_append (as bs : Bytes) :
    splitBytes separator (as ++ separator :: bs) =
      splitBytes separator as ++ splitBytes separator bs := by
  induction as with
  | nil => simp [splitBytes]
  | cons a as ih =>
    by_cases same : a = separator
    · simp only [List.cons_append, splitBytes, if_pos same, ih]
    · obtain ⟨run, runs, h⟩ := List.exists_cons_of_ne_nil (splitBytes_ne_nil as)
      rw [h, List.cons_append] at ih
      rw [List.cons_append, splitBytes_cons_of_ne same ih, splitBytes_cons_of_ne same h,
        List.cons_append]

theorem splitBytes_of_not_mem {bs : Bytes} (h : separator ∉ bs) :
    splitBytes separator bs = [bs] := by
  induction bs with
  | nil => rfl
  | cons b rest ih =>
    simp only [List.mem_cons, not_or] at h
    exact splitBytes_cons_of_ne (Ne.symm h.1) (ih h.2)

theorem splitBytes_some {bs : Bytes} {b : UInt8} (member : b ∈ bs) (other : b ≠ separator) :
    ∃ run ∈ splitBytes separator bs, run ≠ [] := by
  induction bs with
  | nil => cases member
  | cons c bs ih =>
    by_cases same : c = separator
    · obtain ⟨run, inside, some⟩ := ih (by
        rcases List.mem_cons.mp member with rfl | later
        · contradiction
        · exact later)
      exact ⟨run, by rw [splitBytes, if_pos same]; exact List.mem_cons_of_mem _ inside, some⟩
    · obtain ⟨run, runs, h⟩ := List.exists_cons_of_ne_nil (splitBytes_ne_nil bs)
      rw [splitBytes_cons_of_ne same h]
      exact ⟨c :: run, List.mem_cons_self, List.cons_ne_nil _ _⟩

/-- Nothing is lost by cutting. -/
theorem intercalate_splitBytes (bs : Bytes) :
    [separator].intercalate (splitBytes separator bs) = bs := by
  induction bs with
  | nil => rfl
  | cons b rest ih =>
    by_cases same : b = separator
    · rw [splitBytes, if_pos same, List.intercalate_cons_of_ne_nil (splitBytes_ne_nil rest), ih,
        same]
      rfl
    · obtain ⟨run, runs, h⟩ := List.exists_cons_of_ne_nil (splitBytes_ne_nil rest)
      rw [splitBytes_cons_of_ne same h]
      rw [h] at ih
      cases runs with
      | nil =>
        rw [List.intercalate_singleton] at ih ⊢
        rw [ih]
      | cons next runs =>
        rw [List.intercalate_cons_cons] at ih ⊢
        rw [← ih]
        rfl

theorem not_mem_of_splitBytes {bs run : Bytes} (member : run ∈ splitBytes separator bs) :
    separator ∉ run := by
  induction bs generalizing run with
  | nil => simp_all [splitBytes]
  | cons b rest ih =>
    by_cases same : b = separator
    · rw [splitBytes, if_pos same] at member
      rcases List.mem_cons.mp member with rfl | later
      · exact List.not_mem_nil
      · exact ih later
    · obtain ⟨first, runs, h⟩ := List.exists_cons_of_ne_nil (splitBytes_ne_nil rest)
      rw [splitBytes_cons_of_ne same h] at member
      rw [h] at ih
      rcases List.mem_cons.mp member with rfl | later
      · simp [Ne.symm same, ih List.mem_cons_self]
      · exact ih (List.mem_cons_of_mem _ later)

theorem ends_in_newline {content : Bytes} (h : content.getLast? = some newline) :
    ∃ before, content = before ++ [newline] := by
  obtain ⟨before, rfl⟩ := List.getLast?_eq_some_iff.mp h
  exact ⟨before, rfl⟩

/-- Either the content is empty or ends in a line end and the line follows as it is, or a line end
is put between. -/
theorem freshLine_cases (content line : Bytes) :
    (freshLine content line = line ∧
        (content = [] ∨ ∃ before, content = before ++ [newline])) ∨
      (freshLine content line = newline :: line ∧ content ≠ [] ∧
        content.getLast? ≠ some newline) := by
  unfold freshLine
  split
  · rename_i h
    rcases Bool.or_eq_true _ _ ▸ h with h | h
    · exact .inl ⟨rfl, .inl (List.isEmpty_iff.mp h)⟩
    · exact .inl ⟨rfl, .inr (ends_in_newline (eq_of_beq h))⟩
  · rename_i h
    simp only [Bool.or_eq_true, not_or, List.isEmpty_iff, beq_iff_eq] at h
    exact .inr ⟨rfl, h⟩

end DropLedger
