import DropLedger.Proofs.Disk.Changed
import DropLedger.Proofs.Disk.Keys

/-! The order of a listing. Keys are listed in the order of their bytes and each of them once, so
two listings with the same keys are the same; and what is listed of a directory depends on its logs
alone. -/
namespace DropLedger

theorem bytesLe_iff {as bs : Bytes} : bytesLe as bs = true ↔ as ≤ bs := by
  induction as generalizing bs with
  | nil => simp [bytesLe]
  | cons a as ih =>
    cases bs with
    | nil => simp [bytesLe]
    | cons b bs => simp [bytesLe, ih, List.cons_le_cons_iff]

theorem bytesLe_trans (as bs cs : Bytes) (first : bytesLe as bs = true)
    (second : bytesLe bs cs = true) : bytesLe as cs = true := by
  rw [bytesLe_iff] at first second ⊢
  exact List.le_trans first second

theorem bytesLe_total (as bs : Bytes) : (bytesLe as bs || bytesLe bs as) = true := by
  simp only [Bool.or_eq_true, bytesLe_iff]
  exact List.le_total _ _

section KeyOrder

variable {j k : String}

theorem keyLe_iff : keyLe j k = true ↔ Utf8.ofString j ≤ Utf8.ofString k := bytesLe_iff

theorem keyLe_antisymm (first : keyLe j k = true) (second : keyLe k j = true) : j = k := by
  rw [keyLe_iff] at first second
  have same : Utf8.ofString j = Utf8.ofString k := List.le_antisymm first second
  exact String.toList_inj.mp (Utf8.encode_injective same)

/-- A list in strict order is told by its members. -/
theorem ascending_ext {js ks : List String} (left : js.Pairwise fun j k => keyLe j k = true ∧ j ≠ k)
    (right : ks.Pairwise fun j k => keyLe j k = true ∧ j ≠ k) (same : ∀ k, k ∈ js ↔ k ∈ ks) :
    js = ks := by
  refine eq_of_same_members ?_ left right same
  rintro j k ⟨first, apart⟩ ⟨second, _⟩
  exact apart (keyLe_antisymm first second)

end KeyOrder

theorem nodup_eraseDups {α : Type} [BEq α] [LawfulBEq α] (as : List α) : as.eraseDups.Nodup := by
  -- On the length: what follows the first is filtered before its own doubles are removed.
  induction n : as.length using Nat.strongRecOn generalizing as with
  | ind n ih =>
    cases as with
    | nil => simp
    | cons a as =>
      rw [List.eraseDups_cons, List.nodup_cons]
      constructor
      · simp
      · have shorter := List.length_filter_le (fun b => !b == a) as
        subst n
        exact ih _ (by simp; omega) _ rfl

theorem Node.listing_ascending (es : List (Bytes × Node)) :
    (Node.listing es).Pairwise fun x y => bytesLe x.1 y.1 = true ∧ x.1 ≠ y.1 := by
  have once : ((es.map (·.1)).eraseDups.mergeSort bytesLe).Nodup :=
    (List.mergeSort_perm _ _).nodup_iff.mpr (nodup_eraseDups _)
  have sorted := List.pairwise_mergeSort bytesLe_trans bytesLe_total (es.map (·.1)).eraseDups
  rw [Node.listing, List.pairwise_filterMap]
  refine (sorted.and once).imp ?_
  rintro name other before x at_name y at_other
  simp at at_name at_other
  obtain ⟨_, _, rfl⟩ := at_name
  obtain ⟨_, _, rfl⟩ := at_other
  exact before

namespace Disk

variable {d e : Disk} {p q : Path}

theorem fileNames_ascending (d : Disk) (p : Path) :
    (d.fileNames p).Pairwise fun j k => keyLe j k = true ∧ j ≠ k := by
  unfold fileNames
  split
  · exact .nil
  · rename_i listed shown
    obtain ⟨_, es, _, rfl⟩ := entries_eq_ok.mp shown
    rw [List.pairwise_filterMap]
    refine ((Node.listing_ascending es).sublist List.filter_sublist).imp ?_
    intro x y before j at_x k at_y
    rw [toString?_eq_some.mp at_x, toString?_eq_some.mp at_y] at before
    exact ⟨before.1, fun same => before.2 (by rw [same])⟩

theorem fileNames_ext (same : ∀ name, name ∈ d.fileNames p ↔ name ∈ e.fileNames q) :
    d.fileNames p = e.fileNames q :=
  ascending_ext (fileNames_ascending d p) (fileNames_ascending e q) same

theorem keys_ascending (d : Disk) (p : Path) :
    (d.keys p).Pairwise fun j k => keyLe j k = true ∧ j ≠ k := by
  have names : (d.fileNames p).Nodup := (fileNames_ascending d p).imp (·.2)
  have once : (d.keys p).Nodup := by
    refine (List.mergeSort_perm _ _).nodup_iff.mpr (names.filterMap ?_)
    intro a b key at_a at_b
    rw [(listed?_eq_some.mp at_a).1, (listed?_eq_some.mp at_b).1]
  have sorted := @List.pairwise_mergeSort _ keyLe (fun _ _ _ => bytesLe_trans _ _ _)
    (fun _ _ => bytesLe_total _ _) ((d.fileNames p).filterMap listed?)
  exact sorted.and once

/-- The keys that are listed tell the list. -/
theorem keys_ext (same : ∀ key, key ∈ d.keys p ↔ key ∈ e.keys q) : d.keys p = e.keys q :=
  ascending_ext (keys_ascending d p) (keys_ascending e q) same

/-- The keys of a directory, told by what is found there. -/
theorem mem_keys_iff_file (way : d.Settled (p.route d.start)) {key : String} :
    key ∈ d.keys p ↔ keyOf? key = some key ∧ p.raw ≠ [] ∧ p.Fits d.start ∧
      (p.child (logName key)).refusal? = none ∧
        ∃ content, d.fileAt (goal (p.route d.start) ++ [logName key]) = some content := by
  constructor
  · intro listed
    obtain ⟨keyed, content, shown⟩ := file_of_key listed
    obtain ⟨_, _, _, _, located, _, taken⟩ := mem_keys.mp listed
    exact ⟨keyed, (locate_taken located).1, (locate_sound located).1, taken, content,
      fileAt_eq_some.mpr shown⟩
  · rintro ⟨keyed, named, fits, taken, content, held⟩
    have shown := fileAt_eq_some.mp held
    have dir : d.found (goal (p.route d.start)) = some none := dir_of_found (by rw [shown]; nofun)
    obtain ⟨es, located⟩ := locate_dir named fits way dir
    have entry := look_of_file shown
    rw [look_snoc (locate_sound located).2.2.2] at entry
    exact mem_keys.mpr ⟨keyed, _, es, content, located, entry, taken⟩

/-- Changes that leave the logs of a directory alone leave its list alone. -/
theorem Changed.keys_away {new : Location → Prop} {edits : List (Location × Option Bytes)}
    (h : Changed new edits d e) (way : d.Settled (p.route d.start))
    (away : ∀ key, edits.lookup (goal (p.route d.start) ++ [logName key]) = none) :
    e.keys p = d.keys p := by
  have later := h.settled way
  rw [← h.start] at later
  apply keys_ext
  intro key
  rw [mem_keys_iff_file way, mem_keys_iff_file later, h.start, h.fileAt_away (away key)]

theorem keys_unnamed (unnamed : p.raw = []) : d.keys p = [] := by
  refine List.eq_nil_iff_forall_not_mem.mpr fun key listed => ?_
  obtain ⟨_, _, _, _, located, _⟩ := mem_keys.mp listed
  exact (locate_taken located).1 unnamed

/-- Changes that give one log of a directory its content, and leave the others alone, add its key to
those that are listed. -/
theorem Changed.mem_keys_written {new : Location → Prop} {edits : List (Location × Option Bytes)}
    {key : String} {content : Bytes} (h : Changed new edits d e)
    (way : d.Settled (p.route d.start)) (named : p.raw ≠ []) (keyed : keyOf? key = some key)
    (fits : (p.child (logName key)).Fits d.start)
    (here : edits.lookup (goal (p.route d.start) ++ [logName key]) = some (some content))
    (away : ∀ j, j ≠ key → edits.lookup (goal (p.route d.start) ++ [logName j]) = none)
    (j : String) : j ∈ e.keys p ↔ j = key ∨ j ∈ d.keys p := by
  have later := h.settled way
  rw [← h.start] at later
  rw [mem_keys_iff_file later, mem_keys_iff_file way, h.start]
  by_cases same : j = key
  · subst same
    have plain := logName_plain (canonical_of_keyOf? keyed)
    have listed := h.fileAt_edited here
    simp only [true_or, iff_true]
    exact ⟨keyed, named, Path.fits_parent plain fits, fits.1, content, listed⟩
  · rw [h.fileAt_away (away j same)]
    simp [same]

end Disk

end DropLedger
