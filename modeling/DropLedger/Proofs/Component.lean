import DropLedger.Proofs.Selection

/-! Names that stay in the directory they are put in. Players and keys come to such names, whatever
they are given as, and only what is dots throughout is refused. -/
namespace DropLedger
open Text

/-- A name of one entry: it is neither the directory itself nor the one above, and leads nowhere
else on any system. -/
structure Component (name : String) : Prop where
  some : name ≠ ""
  named : ∃ c ∈ name.toList, c ≠ '.'
  safe : ∀ c ∈ name.toList, c ∉ ['/', '\\', ':', '*', '?', '"', '<', '>', '|'] ∧ 0x1F < c.toNat

theorem component_of_safe {name : String} (h : SafeName name.toList) : Component name := by
  obtain ⟨safe, dots⟩ := h
  refine ⟨?_, ?_, ?_⟩
  · rintro rfl
    cases dots
  · simpa [isDots] using dots
  · intro c member
    have taken := safe c member
    simp only [isUnsafe, Bool.or_eq_false_iff, decide_eq_false_iff_not] at taken
    obtain ⟨plain, printed⟩ := taken
    refine ⟨by simpa using plain, ?_⟩
    have space : ' '.toNat ≤ c.toNat := Char.not_lt.mp printed
    exact space

section Dots

/-- No small form of a letter is a dot. -/
theorem runs_above_dot : (caseRuns.all fun r => '.'.toNat.blt r.low) = true := by decide +kernel

theorem lowerChar_dot {c : Char} (h : '.' ∈ lowerChar c) : c = '.' := by
  unfold lowerChar at h
  split at h
  · simp at h
  · split at h
    · rename_i r found
      have member := List.mem_of_find?_eq_some found
      have has : r.has c.toNat = true :=
        List.find?_some (p := fun q : CaseRun => q.has c.toNat) found
      have valid := List.all_eq_true.mp runs_valid r member
      have above := Nat.blt_eq.mp (List.all_eq_true.mp runs_above_dot r member)
      have image := image_toNat valid has
      rw [← List.mem_singleton.mp h] at image
      have low := (low_le_image valid has).1
      omega
    · exact (List.mem_singleton.mp h).symm

theorem lowered_dot {before rest : List Char} {c : Char} (h : '.' ∈ lowered before c rest) :
    c = '.' := by
  unfold lowered at h
  split at h
  · split at h <;> simp at h
  · exact lowerChar_dot h

theorem isDots_iff {cs : List Char} : isDots cs = true ↔ ∀ c ∈ cs, c = '.' := by simp [isDots]

theorem isDots_lowerFrom (before cs : List Char) : isDots (lowerFrom before cs) = isDots cs := by
  rw [Bool.eq_iff_iff, isDots_iff, isDots_iff]
  constructor
  · intro lower
    induction cs generalizing before with
    | nil => simp
    | cons c cs ih =>
      rw [lowerFrom_cons, List.forall_mem_append] at lower
      obtain ⟨first, others⟩ := lower
      -- Every character comes to something, so one that is no dot would show.
      obtain ⟨d, ds, front⟩ := List.exists_cons_of_ne_nil (lowered_ne_nil before c cs)
      have member : d ∈ lowered before c cs := front ▸ List.mem_cons_self
      rw [first d member] at member
      exact List.forall_mem_cons.mpr ⟨lowered_dot member, ih _ others⟩
  · intro dots
    have small : ∀ c ∈ cs, Small c := by
      intro c member
      rw [dots c member]
      exact ⟨by decide, by decide⟩
    rwa [lowerFrom_of_small small]

theorem isDots_sanitize (cs : List Char) : isDots (sanitize cs) = isDots cs := by
  unfold isDots sanitize
  rw [List.all_map]
  congr 1
  funext c
  simp only [Function.comp_apply]
  split
  · rename_i bad
    have other : c ≠ '.' := by
      rintro rfl
      revert bad
      decide
    simp [other]
  · rfl

/-- Only texts without a character that can be seen, dots apart, have no key. -/
theorem keyOf?_eq_none {entity : String} :
    keyOf? entity = none ↔ ∀ c ∈ trimChars entity.toList, c = '.' := by
  unfold keyOf?
  dsimp only
  rw [isDots_sanitize, lowerChars, isDots_lowerFrom, ← isDots_iff]
  split <;> simp_all

end Dots

theorem component_of_key {entity key : String} (h : keyOf? entity = some key) : Component key :=
  component_of_safe (canonical_of_keyOf? h).safe

namespace Selection

variable {s t : Selection}

theorem named_some (given : String) :
    named (some given) = if trimChars given.toList = [] then none else some (trim given) := by
  by_cases blank : trimChars given.toList = [] <;>
    simp [named, trim, Option.filter, blank, ← String.toList_inj]

theorem select_some (s : Selection) (given : String) :
    s.select (some given) =
      if trimChars given.toList = [] then .ok ⟨s.root, none⟩
      else if isDots (trimChars given.toList) then .error (.badPlayer (trim given))
      else .ok ⟨s.root, some (trim given)⟩ := by
  have dots : isDots (sanitize (trim given).toList) = isDots (trimChars given.toList) := by
    rw [isDots_sanitize, trim_toList]
  by_cases blank : trimChars given.toList = []
  · simp [select, named_some, blank]
  · simp [select, named_some, blank, dots]

/-- Only dots are refused, as far as they are not white space. -/
theorem select_refused {player : Option String} :
    (∃ fault, s.select player = .error fault) ↔
      ∃ given, player = some given ∧ trimChars given.toList ≠ [] ∧
        ∀ c ∈ trimChars given.toList, c = '.' := by
  cases player with
  | none => simp [select, named]
  | some given =>
    simp only [Option.some.injEq, ← isDots_iff, exists_eq_left', select_some]
    by_cases blank : trimChars given.toList = []
    · simp [blank]
    · cases isDots (trimChars given.toList) <;> simp [blank]

theorem directory_contained (proper : s.Proper) :
    s.directory = s.root ∨
      ∃ name, Component name ∧ s.directory = s.root.child (Utf8.ofString name) := by
  unfold directory
  cases chosen : s.player with
  | none => exact .inl rfl
  | some player =>
    have named := proper player chosen
    refine .inr ⟨String.ofList (sanitize player.toList), component_of_safe ?_, ?_⟩
    · rw [String.toList_ofList]
      exact ⟨fun _ => sanitize_safe, named⟩
    · rw [Utf8.ofString, String.toList_ofList]

end Selection

end DropLedger
