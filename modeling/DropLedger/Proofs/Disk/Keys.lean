import DropLedger.Store.Reading
import DropLedger.Proofs.Disk.Lookup

/-! The keys that are listed for a directory are those whose logs are files in it. -/
namespace DropLedger

theorem Node.mem_listing {e : Bytes × Node} {es : List (Bytes × Node)} :
    e ∈ Node.listing es ↔ es.lookup e.1 = some e.2 := by
  obtain ⟨name, n⟩ := e
  simp only [Node.listing, List.mem_filterMap, List.mem_mergeSort, List.mem_eraseDups,
    Option.map_eq_some_iff, Prod.mk.injEq]
  constructor
  · rintro ⟨other, _, m, shown, rfl, rfl⟩
    exact shown
  · intro shown
    obtain ⟨before, after, whole, _⟩ := List.lookup_eq_some_iff.mp shown
    refine ⟨name, ?_, n, shown, rfl, rfl⟩
    rw [whole]
    simp

theorem toString?_eq_some {bs : Bytes} {name : String} :
    Utf8.toString? bs = some name ↔ bs = Utf8.ofString name := by
  constructor
  · intro h
    unfold Utf8.toString? at h
    split at h
    · rename_i cs decoded
      cases h
      rw [Utf8.ofString, String.toList_ofList]
      exact (Utf8.encode_of_decode decoded).symm
    · cases h
  · rintro rfl
    exact Utf8.toString?_ofString name

theorem listed?_eq_some {name key : String} :
    listed? name = some key ↔ name = key ++ ".log" ∧ keyOf? key = some key := by
  unfold listed?
  rw [Option.filter_eq_some_iff, beq_iff_eq]
  constructor
  · rintro ⟨stem, keyed⟩
    exact ⟨stem?_eq_some stem, keyed⟩
  · rintro ⟨rfl, keyed⟩
    exact ⟨stem?_key (canonical_of_keyOf? keyed), keyed⟩

namespace Disk

variable {d : Disk} {p : Path} {key : String}

theorem entries_eq_ok {listed : List (Bytes × Node)} :
    d.entries p = .ok listed ↔
      ∃ loc es, d.locate p = .ok (loc, .dir es) ∧ listed = Node.listing es := by
  unfold entries
  rw [bind_eq_ok]
  constructor
  · rintro ⟨⟨loc, n⟩, located, shown⟩
    cases n with
    | file content => cases shown
    | dir es =>
      cases shown
      exact ⟨loc, es, located, rfl⟩
  · rintro ⟨loc, es, located, rfl⟩
    exact ⟨(loc, .dir es), located, rfl⟩

theorem mem_fileNames {name : String} :
    name ∈ d.fileNames p ↔ ∃ loc es content, d.locate p = .ok (loc, .dir es) ∧
      es.lookup (Utf8.ofString name) = some (.file content) ∧
        (p.child (Utf8.ofString name)).refusal? = none := by
  unfold fileNames
  cases shown : d.entries p with
  | error cause =>
    constructor
    · nofun
    · rintro ⟨loc, es, _, located, _⟩
      rw [entries_eq_ok.mpr ⟨loc, es, located, rfl⟩] at shown
      cases shown
  | ok listed =>
    obtain ⟨loc, es, located, rfl⟩ := entries_eq_ok.mp shown
    simp only [List.mem_filterMap, List.mem_filter, Node.mem_listing, toString?_eq_some]
    constructor
    · rintro ⟨⟨_, n⟩, ⟨shown, taken⟩, rfl⟩
      rw [Bool.and_eq_true, Option.isNone_iff_eq_none] at taken
      cases n with
      | dir _ => cases taken.1
      | file content => exact ⟨loc, es, content, located, shown, taken.2⟩
    · rintro ⟨_, _, content, same, shown, taken⟩
      rw [located] at same
      cases same
      refine ⟨(Utf8.ofString name, .file content), ⟨shown, ?_⟩, rfl⟩
      rw [Bool.and_eq_true, Option.isNone_iff_eq_none]
      exact ⟨rfl, taken⟩

theorem mem_keys :
    key ∈ d.keys p ↔ keyOf? key = some key ∧ ∃ loc es content, d.locate p = .ok (loc, .dir es) ∧
      es.lookup (logName key) = some (.file content) ∧
        (p.child (logName key)).refusal? = none := by
  rw [keys, List.mem_mergeSort, List.mem_filterMap, logName_ofString]
  constructor
  · rintro ⟨name, member, listed⟩
    obtain ⟨rfl, keyed⟩ := listed?_eq_some.mp listed
    exact ⟨keyed, mem_fileNames.mp member⟩
  · rintro ⟨keyed, there⟩
    exact ⟨key ++ ".log", mem_fileNames.mpr there, listed?_eq_some.mpr ⟨rfl, keyed⟩⟩

theorem file_of_key (h : key ∈ d.keys p) :
    keyOf? key = some key ∧
      ∃ content, d.found (goal (p.route d.start) ++ [logName key]) = some (some content) := by
  obtain ⟨keyed, loc, es, content, located, shown, _⟩ := mem_keys.mp h
  obtain ⟨_, _, rfl, there⟩ := locate_sound located
  refine ⟨keyed, content, ?_⟩
  rw [found, look_snoc there, shown]
  rfl

/-- A log in the directory is listed, unless its path does not fit. -/
theorem key_of_file {content : Bytes} (named : p.raw ≠ []) (settled : d.Settled (p.route d.start))
    (keyed : keyOf? key = some key) (fits : (p.child (logName key)).Fits d.start)
    (shown : d.found (goal (p.route d.start) ++ [logName key]) = some (some content)) :
    key ∈ d.keys p := by
  have plain := logName_plain (canonical_of_keyOf? keyed)
  have dir : d.found (goal (p.route d.start)) = some none := dir_of_found (by rw [shown]; nofun)
  obtain ⟨es, located⟩ := locate_dir named (Path.fits_parent plain fits) settled dir
  have there := (locate_sound located).2.2.2
  have entry := look_of_file shown
  rw [look_snoc there] at entry
  exact mem_keys.mpr ⟨keyed, _, es, content, located, entry, fits.1⟩

end Disk

end DropLedger
