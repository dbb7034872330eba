import DropLedger.Proofs.Disk.Listing
import DropLedger.Proofs.Store.Requests

/-! Loading. What is loaded for an entity is decided by the disk and the selection, not by what was
reported before; and all that is loaded is what is loaded for the listed keys, one after the
other. -/
namespace DropLedger

namespace Disk

variable {d : Disk} {p : Path} {name content : Bytes} {loc : Location} {es : List (Bytes × Node)}

/-- A file of a directory that was found is read, unless its name is too long to be followed. -/
theorem read_entry (plain : PlainName name) (located : d.locate p = .ok (loc, .dir es))
    (entry : es.lookup name = some (.file content)) (taken : (p.child name).refusal? = none) :
    d.read (p.child name) =
      if name.length ≤ nameLimit then .ok content else .error .nameTooLong := by
  obtain ⟨named, whole⟩ := locate_taken located
  obtain ⟨⟨_, short⟩, way, rfl, there⟩ := locate_sound located
  split
  · rename_i limit
    have fits : (p.child name).Fits d.start := by
      refine ⟨taken, ?_⟩
      rw [Path.route_child plain]
      exact short_append.mpr ⟨short, short_singleton.mpr limit⟩
    refine (read_child plain way).mpr ⟨fits, ?_⟩
    rw [found, look_snoc there, entry]
    rfl
  · rename_i long
    rw [locate_eq named whole] at located
    obtain ⟨t, walked, shown⟩ := bind_eq_ok.mp located
    have node : d.node t = .dir es := by
      split at shown
      · cases shown
      · exact (Prod.mk.inj (Except.ok.inj shown)).2
    have entered : d.enter t name = .error .nameTooLong := by
      unfold enter
      rw [node]
      simp [plain.here, plain.above, Nat.lt_of_not_le long]
    unfold read
    rw [locate_eq (Path.child_ne_nil plain) taken, Path.route_child plain, walk_snoc, walked]
    change ((d.enter t name >>= _) >>= _) = _
    rw [entered]
    rfl

theorem child_taken (plain : PlainName name) (taken : p.refusal? = none) :
    (p.child name).refusal? = none ↔ (p.child name).raw.length ≤ pathLimit := by
  have zero : 0 ∉ p.raw := by
    intro inside
    unfold Path.refusal? at taken
    simp [inside] at taken
  have clean : 0 ∉ (p.child name).raw := by
    unfold Path.child
    split <;> simp [zero, plain.zero, slash]
  unfold Path.refusal?
  simp [clean]

end Disk

namespace Store

variable {s t : Store} {entity key : String}

/-- Reading a log leaves nothing but notices. -/
theorem readLog_eq (s : Store) (entity : String) :
    ∃ notices, s.readLog entity = (s.logOf entity, { s with notices }) := by
  unfold readLog logOf
  cases file : s.selection.entityFile entity with
  | error fault => exact ⟨s.notices, rfl⟩
  | ok path =>
    dsimp only
    cases shown : s.disk.readLog path with
    | ok log => exact ⟨_, rfl⟩
    | error cause => exact ⟨s.notices, rfl⟩

theorem load_eq (s : Store) (entity : String) :
    (s.load entity).1 = match s.logOf entity with
      | .ok log => log.kills
      | .error _ => [] := by
  obtain ⟨notices, read⟩ := readLog_eq s entity
  unfold load tryLoad
  rw [read]
  cases s.logOf entity <;> rfl

theorem needsMigration_eq (s : Store) (entity : String) :
    (s.needsMigration entity).1 = match s.logOf entity with
      | .ok log => log.older != 0
      | .error _ => false := by
  obtain ⟨notices, read⟩ := readLog_eq s entity
  unfold needsMigration
  rw [read]
  cases s.logOf entity <;> rfl

theorem load_noted (s : Store) (notices : List Notice) (entity : String) :
    (({ s with notices } : Store).load entity).1 = (s.load entity).1 := by
  rw [load_eq, load_eq]
  rfl

theorem loadEach_eq (s : Store) (keys : List String) :
    (s.loadEach keys).1 = keys.flatMap fun key => (s.load key).1 := by
  induction keys generalizing s with
  | nil => rfl
  | cons key keys ih =>
    obtain ⟨notices, read⟩ := readLog_eq s key
    have first := load_eq s key
    unfold loadEach tryLoad
    rw [read]
    cases shown : s.logOf key with
    | ok log =>
      rw [shown] at first
      simp [Except.map, ih, load_noted, first]
    | error fault =>
      rw [shown] at first
      simp [Except.map, note, ih, load_noted, first]

theorem loadAll_eq (s : Store) : s.loadAll.1 = s.keys.1.flatMap fun key => (s.load key).1 := by
  unfold loadAll
  simp only [loadEach_eq, keys, keysIn, noteAll, load_noted]

theorem load_read (keyed : keyOf? entity = some key) :
    (s.load entity).1 = match s.disk.read (s.selection.logPath key) with
      | .ok content => (Log.read content).kills
      | .error _ => [] := by
  rw [load_recorded keyed, recorded, Disk.textOf]
  cases s.disk.read (s.selection.logPath key) <;> rfl

/-- In a directory that can be read, the keys are listed whose logs are regular files there, unless
the path of such a file is too long to be looked up. The log of a listed key is that very file, and
what is loaded together is what is loaded for each of them, in the order of the keys. -/
theorem listing_agrees_with_loading {loc : Location} {es : List (Bytes × Node)}
    (readable : s.disk.locate s.selection.directory = .ok (loc, .dir es)) :
    (∀ key, key ∈ s.keys.1 ↔
      keyOf? key = some key ∧
        (∃ content, es.lookup (Utf8.ofString (key ++ ".log")) = some (.file content)) ∧
          (s.selection.directory.child (Utf8.ofString (key ++ ".log"))).raw.length ≤ pathLimit) ∧
      (∀ key ∈ s.keys.1, ∃ content,
        es.lookup (Utf8.ofString (key ++ ".log")) = some (.file content) ∧
          s.selection.entityFile key =
            .ok (s.selection.directory.child (Utf8.ofString (key ++ ".log"))) ∧
          s.disk.read (s.selection.directory.child (Utf8.ofString (key ++ ".log"))) =
            (if (Utf8.ofString (key ++ ".log")).length ≤ nameLimit then .ok content
              else .error .nameTooLong) ∧
          (s.load key).1 =
            if (Utf8.ofString (key ++ ".log")).length ≤ nameLimit then (Log.read content).kills
            else []) ∧
      (s.keys.1.Pairwise fun j k => keyLe j k = true ∧ j ≠ k) ∧
      s.loadAll.1 = s.keys.1.flatMap fun key => (s.load key).1 := by
  have whole := (Disk.locate_taken readable).2
  have listed : ∀ key, key ∈ s.keys.1 ↔
      keyOf? key = some key ∧ (∃ content, es.lookup (logName key) = some (.file content)) ∧
        (s.selection.directory.child (logName key)).raw.length ≤ pathLimit := by
    intro key
    refine Disk.mem_keys.trans (and_congr_right ?_)
    intro keyed
    rw [← Disk.child_taken (logName_plain (canonical_of_keyOf? keyed)) whole]
    constructor
    · rintro ⟨_, _, content, same, entry, taken⟩
      cases readable.symm.trans same
      exact ⟨⟨content, entry⟩, taken⟩
    · rintro ⟨⟨content, entry⟩, taken⟩
      exact ⟨loc, es, content, readable, entry, taken⟩
  simp only [← logName_ofString]
  refine ⟨listed, ?_, Disk.keys_ascending _ _, loadAll_eq s⟩
  intro key member
  obtain ⟨keyed, ⟨content, entry⟩, short⟩ := (listed key).mp member
  have plain := logName_plain (canonical_of_keyOf? keyed)
  have read := Disk.read_entry plain readable entry ((Disk.child_taken plain whole).mpr short)
  refine ⟨content, entry, ?_, read, ?_⟩
  · rw [Selection.entityFile, keyOf_eq_ok.mpr keyed]
    rfl
  · rw [load_read keyed, Selection.logPath, read]
    by_cases limit : (logName key).length ≤ nameLimit <;> simp [limit]

/-- A key with its log, a stem that is not its own key, a log that nothing can be read from, and a
directory with the name of a log. -/
def mixedRoot : Store where
  disk := ⟨.dir [([0x78], .dir [(logName "ab", .file (Log.write [Kill.ofEvent "AB" unknown []])),
    (logName "AB", .file []), (logName "a.log", .file [0x7B, newline, 0xFF]),
    (logName "c", .dir [])])], [], []⟩
  selection := ⟨⟨[0x78]⟩, none⟩

theorem mixedRoot_listed :
    "ab" ∈ mixedRoot.keys.1 ∧ "a.log" ∈ mixedRoot.keys.1 ∧ "AB" ∉ mixedRoot.keys.1 ∧
      "c" ∉ mixedRoot.keys.1 ∧ (mixedRoot.load "ab").1 = [Kill.ofEvent "AB" unknown []] := by
  have readable :
      mixedRoot.disk.locate mixedRoot.selection.directory = .ok ([[0x78]], .dir _) := rfl
  obtain ⟨listed, _⟩ := listing_agrees_with_loading readable
  refine ⟨(listed _).mpr ⟨by decide +kernel, ⟨_, rfl⟩, by decide⟩,
    (listed _).mpr ⟨by decide +kernel, ⟨_, rfl⟩, by decide⟩, ?_, ?_, by decide +kernel⟩
  · intro member
    exact absurd ((listed _).mp member).1 (by decide +kernel)
  · intro member
    obtain ⟨_, ⟨content, entry⟩, _⟩ := (listed _).mp member
    cases entry

/-- A directory by a path that leaves no room for the name of a log. -/
def distantRoot : Store where
  disk := ⟨.dir [(logName "a", .file [])], [], []⟩
  selection := ⟨⟨(List.replicate 2047 [0x2E, slash]).flatten⟩, none⟩

/-- The log is a regular file in a directory that can be read, and it is not listed. -/
theorem distantRoot_unlisted :
    (∃ es, distantRoot.disk.locate distantRoot.selection.directory = .ok ([], .dir es) ∧
        es.lookup (Utf8.ofString "a.log") = some (.file [])) ∧
      keyOf? "a" = some "a" ∧ "a" ∉ distantRoot.keys.1 := by
  have steps : distantRoot.selection.directory.route distantRoot.disk.start =
      List.replicate 2047 here := by decide +kernel
  have fits : distantRoot.selection.directory.Fits distantRoot.disk.start := by
    refine ⟨by decide +kernel, ?_⟩
    rw [steps]
    intro name member
    rw [List.eq_of_mem_replicate member]
    decide
  have stays : goal (distantRoot.selection.directory.route distantRoot.disk.start) = [] := by
    decide +kernel
  have way : distantRoot.disk.Settled (distantRoot.selection.directory.route []) := by
    apply Disk.settled_of_no_above
    rw [show distantRoot.selection.directory.route [] = List.replicate 2047 here from steps]
    intro inside
    exact absurd (List.eq_of_mem_replicate inside) (by decide)
  obtain ⟨es, located⟩ := Disk.locate_dir (by decide +kernel) fits way (by rw [stays]; rfl)
  rw [stays] at located
  refine ⟨⟨es, located, ?_⟩, by decide +kernel, ?_⟩
  · cases (Disk.locate_sound located).2.2.2
    rfl
  · intro member
    obtain ⟨_, _, _, _, _, _, taken⟩ := Disk.mem_keys.mp member
    exact absurd taken (by decide +kernel)

end Store

end DropLedger
