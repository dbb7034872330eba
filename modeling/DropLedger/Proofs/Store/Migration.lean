import DropLedger.Proofs.Store.Loading

/-! Migration. A log with kills in the older layout is written anew with the same kills, and one
without them is not touched, so there is never anything left for a second migration. -/
namespace DropLedger.Store

variable {s t : Store} {entity key : String}

theorem logOf_read {content : Bytes} (keyed : keyOf? entity = some key)
    (read : s.disk.read (s.selection.logPath key) = .ok content) :
    s.logOf entity = .ok (Log.read content) := by
  rw [logOf_eq keyed, Disk.readLog, read]

theorem logOf_stored {log : Log} (keyed : keyOf? entity = some key)
    (shown : s.logOf entity = .ok log) :
    log.kills = s.recorded key ∧ log.older = s.olderIn key := by
  obtain ⟨notices, read⟩ := readLog_eq s entity
  rw [shown] at read
  exact readLog_ok keyed read

/-- Whether there is anything to migrate is told without a failure. -/
theorem needsMigration_older (keyed : keyOf? entity = some key) :
    (s.needsMigration entity).1 = (s.olderIn key != 0) := by
  rw [needsMigration_eq]
  cases shown : s.logOf entity with
  | ok log => simp [(logOf_stored keyed shown).2]
  | error fault =>
    have unread : s.disk.textOf (s.selection.logPath key) = [] := by
      obtain ⟨notices, read⟩ := readLog_eq s entity
      rw [shown] at read
      obtain ⟨_, ⟨_, ok, _⟩ | ⟨_, _, empty⟩⟩ := readLog_cases keyed read
      · cases ok
      · exact empty
    rw [olderIn, unread]
    rfl

theorem read_of_older (some : s.olderIn key ≠ 0) :
    ∃ content, s.disk.read (s.selection.logPath key) = .ok content := by
  unfold olderIn Disk.textOf at some
  cases read : s.disk.read (s.selection.logPath key) with
  | ok content => exact ⟨content, rfl⟩
  | error cause =>
    rw [read] at some
    exact absurd rfl some

theorem tryMigrate_idle {log : Log} (keyed : keyOf? entity = some key)
    (shown : s.logOf entity = .ok log) (none : log.older = 0) :
    ∃ notices, s.tryMigrate entity = (.ok false, { s with notices }) := by
  obtain ⟨notices, read⟩ := readLog_eq s entity
  refine ⟨notices, ?_⟩
  unfold tryMigrate
  rw [keyOf_eq_ok.mpr keyed, read, shown]
  simp [none]

theorem tryMigrate_logOf {b : Bool} (done : s.tryMigrate entity = (.ok b, t)) :
    ∃ log, s.logOf entity = .ok log := by
  obtain ⟨notices, read⟩ := readLog_eq s entity
  unfold tryMigrate at done
  rw [read] at done
  cases shown : s.logOf entity with
  | ok log => exact ⟨log, rfl⟩
  | error fault =>
    rw [shown] at done
    cases keyed : keyOf entity <;> rw [keyed] at done <;> cases done

/-- A migration that does not fail tells whether there was anything to migrate, and loads the same
kills before and after. With nothing to migrate the disk is not touched; otherwise the log is one
line in the current layout for each kill. Nothing is left for a second migration, which changes
nothing. -/
theorem migration_keeps_kills {b : Bool} (done : s.tryMigrate entity = (.ok b, t)) :
    b = (s.needsMigration entity).1 ∧ t.selection = s.selection ∧
      (t.load entity).1 = (s.load entity).1 ∧ (b = false → t.disk = s.disk) ∧
      (b = true → ∃ path, s.selection.entityFile entity = .ok path ∧
        t.disk.read path = .ok (Log.write (s.load entity).1) ∧
          (Log.read (Log.write (s.load entity).1)).stored =
            (s.load entity).1.map (⟨·, .current⟩) ∧
          (Log.read (Log.write (s.load entity).1)).skipped = 0) ∧
      (t.needsMigration entity).1 = false ∧
      ∃ u, t.tryMigrate entity = (.ok false, u) ∧ u.disk = t.disk ∧ u.selection = t.selection := by
  rcases tryMigrate_cases done with
    ⟨_, failed, _⟩ | ⟨key, keyed, ⟨result, none, notices, rfl⟩ | ⟨result, some, fits, edited⟩⟩
  · cases failed
  · cases result
    obtain ⟨log, shown⟩ := tryMigrate_logOf done
    have idle : log.older = 0 := (logOf_stored keyed shown).2.trans none
    have current : (s.needsMigration entity).1 = false := by
      simp [needsMigration_older keyed, none]
    have again : ({ s with notices } : Store).logOf entity = .ok log := shown
    obtain ⟨more, second⟩ := tryMigrate_idle keyed again idle
    refine ⟨current.symm, rfl, load_noted s notices entity, fun _ => rfl, nofun, ?_, _, second, rfl,
      rfl⟩
    rw [needsMigration_eq, again]
    simp [idle]
  · cases result
    obtain ⟨content, before⟩ := read_of_older some
    have way := Disk.settled_of_read (logName_plain (canonical_of_keyOf? keyed)) before
    have read := edited.read_log (keyOf?_key keyed) fits way
    have kills := load_recorded (s := s) keyed
    have shown := logOf_read keyed read
    have idle := Log.older_write (s.recorded key)
    obtain ⟨more, second⟩ := tryMigrate_idle keyed shown idle
    have path : s.selection.entityFile entity = .ok (s.selection.logPath key) := by
      rw [Selection.entityFile, keyOf_eq_ok.mpr keyed]
      rfl
    refine ⟨?_, edited.selection, ?_, (absurd · Bool.false_ne_true.symm), fun _ => ⟨_, path, ?_⟩, ?_,
      _, second, rfl, rfl⟩
    · simp [needsMigration_older keyed, some]
    · rw [load_eq, shown, kills]
      exact Log.kills_write _
    · rw [kills, ← edited.selection]
      exact ⟨read, Log.read_write _⟩
    · rw [needsMigration_eq, shown]
      simp [idle]

/-- A line in the older layout, one that is no text, a blank one, one that is cut short, and one in
the current layout without a line end. -/
def mixedLines : Store where
  disk := ⟨.dir [([0x78], .dir [(logName "ab", .file
    (Utf8.ofString "\x7b\"npcName\":\"Ab\"\x7d" ++
      [newline, 0xFF, newline, newline, 0x7B, newline] ++
      Utf8.encode (Kill.ofEvent "AB" unknown []).line))])], [], []⟩
  selection := ⟨⟨[0x78]⟩, none⟩

theorem mixedLines_migrated :
    (mixedLines.needsMigration "AB ").1 = true ∧
      (mixedLines.tryMigrate "AB ").2.disk.read ⟨[0x78, slash] ++ logName "ab"⟩ =
        .ok (Log.write [Kill.ofEvent "Ab" unknown [], Kill.ofEvent "AB" unknown []]) ∧
      ((mixedLines.tryMigrate "AB ").2.needsMigration "AB ").1 = false := by
  have done : mixedLines.tryMigrate "AB " = (.ok true, (mixedLines.tryMigrate "AB ").2) := by
    rw [show Except.ok true = (mixedLines.tryMigrate "AB ").1 by decide +kernel]
  obtain ⟨some, _, _, _, written, rest, _⟩ := migration_keeps_kills done
  obtain ⟨path, file, read, _⟩ := written rfl
  have loaded : (mixedLines.load "AB ").1 =
      [Kill.ofEvent "Ab" unknown [], Kill.ofEvent "AB" unknown []] := by decide +kernel
  have place : mixedLines.selection.entityFile "AB " = .ok ⟨[0x78, slash] ++ logName "ab"⟩ := by
    decide +kernel
  rw [file] at place
  cases place
  rw [loaded] at read
  exact ⟨some.symm, read, rest⟩

end DropLedger.Store
