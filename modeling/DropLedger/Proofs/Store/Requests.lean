import DropLedger.Store.Queue
import DropLedger.Proofs.Kill.Log
import DropLedger.Proofs.Selection

/-! What a request does to the files. One file at most is put in place or taken away; a request that
fails leaves all of them as they were, but for its spare file. -/
namespace DropLedger

namespace Disk

variable {d : Disk} {p : Path}

theorem readLog_stored {log : Log} (h : d.readLog p = .ok log) :
    log.stored = (Log.read (d.textOf p)).stored := by
  unfold readLog at h
  unfold textOf
  cases readable : d.read p with
  | ok content =>
    rw [readable] at h
    cases h
    rfl
  | error cause =>
    rw [readable] at h
    cases cause <;> cases h
    rfl

theorem readLog_error {cause : Cause} (h : d.readLog p = .error cause) : d.textOf p = [] := by
  unfold readLog at h
  unfold textOf
  cases readable : d.read p with
  | ok content =>
    rw [readable] at h
    cases h
  | error _ => rfl

end Disk

namespace Store

/-- What drops that were seen late make of the kills of an entity. -/
def withDrops (entity : String) (ds : List Drop) (ks : List Kill) : List Kill :=
  match ks.getLast? with
  | none => [Kill.ofEvent (Text.trim entity) unknown ds]
  | some last => ks.dropLast ++ [last.addDrops ds]

/-- A request for the selected directory has edited these files. -/
structure Edited (s t : Store) (edits : List (Location × Option Bytes)) : Prop where
  selection : t.selection = s.selection
  disk : Disk.Changed (Disk.Toward s.selection.directory s.disk.start) edits s.disk t.disk

variable {s t u : Store} {edits : List (Location × Option Bytes)} {key entity : String} {b : Bool}

theorem edited_rfl (selection : t.selection = s.selection) (disk : t.disk = s.disk) :
    s.Edited t [] :=
  ⟨selection, by rw [disk]; exact .refl⟩

def logAt (s : Store) (key : String) : Location := s.selection.logAt s.disk.start key

def spareAt (s : Store) (key : String) : Location := s.selection.spareAt s.disk.start key

theorem goal_logPath (keyed : keyOf? entity = some key) :
    goal ((s.selection.logPath key).route s.disk.start) = s.logAt key :=
  Path.goal_child (logName_plain (canonical_of_keyOf? keyed)) s.disk.start

/-- The bytes of the log of a key, none if there is no file. -/
def bytesOf (s : Store) (key : String) : Bytes := (s.disk.fileAt (s.logAt key)).getD []

/-- The kills that can be read for a key. -/
def recorded (s : Store) (key : String) : List Kill :=
  (Log.read (s.disk.textOf (s.selection.logPath key))).kills

/-- The number of kills in the older layout that can be read for a key. -/
def olderIn (s : Store) (key : String) : Nat :=
  (Log.read (s.disk.textOf (s.selection.logPath key))).older

def Fits (s : Store) (key : String) : Prop := (s.selection.logPath key).Fits s.disk.start

/-- A failed request has edited no log. -/
def Failed (s t : Store) : Prop := s.Edited t [] ∨ ∃ key, s.Edited t [(s.spareAt key, none)]

/-- A failed request for an entity has edited no file but the spare file of that entity. -/
def FailedFor (s t : Store) (entity : String) : Prop :=
  s.Edited t [] ∨ ∃ key, keyOf? entity = some key ∧ s.Edited t [(s.spareAt key, none)]

theorem FailedFor.failed (h : s.FailedFor t entity) : s.Failed t := by
  rcases h with kept | ⟨key, _, spared⟩
  · exact .inl kept
  · exact .inr ⟨key, spared⟩

theorem FailedFor.noted (h : s.FailedFor t entity) (notices : List Notice) :
    s.FailedFor { t with notices } entity := by
  rcases h with kept | ⟨key, keyed, spared⟩
  · exact .inl ⟨kept.selection, kept.disk⟩
  · exact .inr ⟨key, keyed, spared.selection, spared.disk⟩

theorem noted_if {c : Prop} [Decidable c] (n : Notice) :
    ∃ notices, (if c then s else s.note n) = { s with notices } := by
  split
  · exact ⟨s.notices, rfl⟩
  · exact ⟨_, rfl⟩

theorem reported_eq (s : Store) (notices : List Notice) (done : Except Cause Unit × Disk)
    (n : Notice) (m : StoreFault → Notice) :
    ∃ more, Attempt.reported (concluded { s with notices } done n) m =
      (done.1.isOk, { s with disk := done.2, notices := more }) := by
  obtain ⟨cause | x, d⟩ := done
  · exact ⟨_, rfl⟩
  · exact ⟨_, rfl⟩

theorem append_eq {k : Kill} (keyed : keyOf? k.name = some key) :
    ∃ notices, s.append k =
      ((s.extendLog key k).1.isOk, { s with disk := (s.extendLog key k).2, notices }) := by
  unfold append tryAppend
  rw [keyOf_eq_ok.mpr keyed]
  exact reported_eq s s.notices _ _ _

theorem replace_eq (keyed : keyOf? entity = some key) (ks : List Kill) :
    ∃ notices, s.replace entity ks =
      ((s.replaceLog key ks).1.isOk, { s with disk := (s.replaceLog key ks).2, notices }) := by
  unfold replace tryReplace
  rw [keyOf_eq_ok.mpr keyed]
  exact reported_eq s s.notices _ _ _

section Edits

variable {n : Notice} {m : StoreFault → Notice} {notices : List Notice}
  (keyed : keyOf? entity = some key)
include keyed

theorem replace_concluded {ks : List Kill} {r : Except StoreFault Unit}
    (h : concluded { s with notices } (s.replaceLog key ks) n = (r, t)) :
    (∃ fault, r = .error fault ∧ s.FailedFor t entity) ∨
      (r = .ok () ∧ s.Fits key ∧
        s.Edited t [(s.logAt key, some (Log.write ks)), (s.spareAt key, none)]) := by
  have canonical := canonical_of_keyOf? keyed
  have plain := logName_plain canonical
  cases done : s.replaceLog key ks with
  | mk result d =>
    rw [done] at h
    rcases Disk.replace_changed plain (spareName_plain canonical) done with
      ⟨cause, rfl, kept | spared⟩ | ⟨rfl, fits, edited⟩
    · cases h
      exact .inl ⟨_, rfl, .inl ⟨rfl, kept.mono fun _ => Disk.toward_child plain⟩⟩
    · cases h
      exact .inl ⟨_, rfl, .inr ⟨key, keyed, rfl, spared.mono fun _ => Disk.toward_child plain⟩⟩
    · cases h
      exact .inr ⟨rfl, fits, rfl, edited.mono fun _ => Disk.toward_child plain⟩

theorem replace_reported {ks : List Kill}
    (h : Attempt.reported (concluded { s with notices } (s.replaceLog key ks) n) m = (b, t)) :
    (b = false ∧ s.FailedFor t entity) ∨
      (b = true ∧ s.Fits key ∧
        s.Edited t [(s.logAt key, some (Log.write ks)), (s.spareAt key, none)]) := by
  cases done : concluded { s with notices } (s.replaceLog key ks) n with
  | mk r u =>
    rw [done] at h
    rcases replace_concluded keyed done with ⟨fault, rfl, failed⟩ | ⟨rfl, replaced⟩
    · cases h
      exact .inl ⟨rfl, failed.noted _⟩
    · cases h
      exact .inr ⟨rfl, replaced⟩

end Edits

/-- A log that was put in place is read back, provided that its directory was where its path led. -/
theorem Edited.read_log {content : Bytes} (keyed : keyOf? key = some key) (fits : s.Fits key)
    (way : s.disk.Settled (s.selection.directory.route s.disk.start))
    (edited : s.Edited t ((s.logAt key, some content) :: edits)) :
    t.disk.read (t.selection.logPath key) = .ok content := by
  have later := edited.disk.settled way
  have start := edited.disk.start
  rw [← start] at later
  rw [edited.selection]
  refine (Disk.read_child (logName_plain (canonical_of_keyOf? keyed)) later).mpr ⟨start ▸ fits, ?_⟩
  rw [start]
  exact (edited.disk.edited _ _ List.lookup_cons_self).2

theorem logOf_eq (keyed : keyOf? entity = some key) :
    s.logOf entity = match s.disk.readLog (s.selection.logPath key) with
      | .ok log => .ok log
      | .error cause => .error (.disk cause) := by
  unfold logOf Selection.entityFile
  rw [keyOf_eq_ok.mpr keyed]
  rfl

theorem readLog_cases {r : Except StoreFault Log} (keyed : keyOf? entity = some key)
    (h : s.readLog entity = (r, t)) :
    (∃ notices, t = { s with notices }) ∧
      ((∃ log, r = .ok log ∧
          log.stored = (Log.read (s.disk.textOf (s.selection.logPath key))).stored) ∨
        ∃ fault, r = .error fault ∧ s.disk.textOf (s.selection.logPath key) = []) := by
  have file : s.selection.entityFile entity = .ok (s.selection.logPath key) := by
    rw [Selection.entityFile, keyOf_eq_ok.mpr keyed]
    rfl
  unfold readLog at h
  rw [file, logOf_eq keyed] at h
  cases shown : s.disk.readLog (s.selection.logPath key) with
  | ok log =>
    rw [shown] at h
    cases h
    exact ⟨⟨_, rfl⟩, .inl ⟨log, rfl, Disk.readLog_stored shown⟩⟩
  | error cause =>
    rw [shown] at h
    cases h
    exact ⟨⟨s.notices, rfl⟩, .inr ⟨_, rfl, Disk.readLog_error shown⟩⟩

theorem readLog_unkeyed (unkeyed : keyOf? entity = none) :
    s.readLog entity = (.error (.badEntity entity), s) := by
  unfold readLog logOf Selection.entityFile keyOf
  rw [unkeyed]
  rfl

theorem readLog_ok {log : Log} (keyed : keyOf? entity = some key)
    (h : s.readLog entity = (.ok log, t)) :
    log.kills = s.recorded key ∧ log.older = s.olderIn key := by
  obtain ⟨_, ⟨read, same, stored⟩ | ⟨fault, failed, _⟩⟩ := readLog_cases keyed h
  · cases same
    rw [recorded, olderIn, Log.kills, Log.kills, Log.older, Log.older, stored]
    exact ⟨rfl, rfl⟩
  · cases failed

theorem load_recorded (keyed : keyOf? entity = some key) :
    (s.load entity).1 = s.recorded key := by
  unfold load tryLoad
  cases shown : s.readLog entity with
  | mk r t =>
    cases r with
    | ok log => exact (readLog_ok keyed shown).1
    | error fault =>
      obtain ⟨_, ⟨_, ok, _⟩ | ⟨_, _, empty⟩⟩ := readLog_cases keyed shown
      · cases ok
      · rw [recorded, empty]
        rfl

theorem append_cases {k : Kill} (h : s.append k = (b, t)) :
    (b = false ∧ s.Edited t []) ∨
      (b = true ∧ ∃ key, keyOf? k.name = some key ∧ s.Fits key ∧
        s.Edited t [(s.logAt key, some (s.bytesOf key ++
          freshLine (s.bytesOf key) (Log.write [k])))]) := by
  cases keyed : keyOf? k.name with
  | none =>
    unfold append tryAppend keyOf at h
    rw [keyed] at h
    cases h
    exact .inl ⟨rfl, edited_rfl rfl rfl⟩
  | some key =>
    have plain := logName_plain (canonical_of_keyOf? keyed)
    obtain ⟨notices, same⟩ := append_eq (s := s) keyed
    rw [same] at h
    cases h
    have done : s.extendLog key k = ((s.extendLog key k).1, (s.extendLog key k).2) := rfl
    rcases Disk.appendLine_changed done with ⟨cause, failed, kept⟩ | ⟨ok, fits, edited⟩
    · exact .inl ⟨congrArg Except.isOk failed, rfl, kept.mono fun _ => Disk.toward_child plain⟩
    · rw [goal_logPath keyed] at edited
      exact .inr ⟨congrArg Except.isOk ok, key, rfl, fits, rfl,
        edited.mono fun _ => Disk.toward_child plain⟩

theorem append_extends {k : Kill} (keyed : keyOf? k.name = some key)
    (done : s.append k = (true, t)) :
    t.selection = s.selection ∧ s.extendLog key k = (.ok (), t.disk) := by
  obtain ⟨notices, same⟩ := append_eq (s := s) keyed
  rw [same] at done
  cases extended : s.extendLog key k with
  | mk result d =>
    rw [extended] at done
    cases result with
    | error cause => cases done
    | ok _ =>
      cases done
      exact ⟨rfl, rfl⟩

/-- A log that a kill was added to is read with the kill. -/
theorem append_stored {k : Kill} (keyed : keyOf? k.name = some key)
    (done : s.append k = (true, t)) :
    t.disk.read (t.selection.logPath key) =
      .ok (s.bytesOf key ++ freshLine (s.bytesOf key) (Log.write [k])) := by
  have plain := logName_plain (canonical_of_keyOf? keyed)
  obtain ⟨selection, extended⟩ := append_extends keyed done
  have way := Disk.appendLine_settled extended
  rcases append_cases done with ⟨failed, _⟩ | ⟨_, other, keyed', fits, edited⟩
  · cases failed
  · obtain rfl := Option.some.inj (keyed.symm.trans keyed')
    rw [Selection.logPath, Path.route_child plain, ← edited.disk.start] at way
    rw [selection]
    refine (Disk.read_child plain (Disk.settled_snoc.mp way).1).mpr ⟨?_, ?_⟩
    · rw [edited.disk.start]
      exact fits
    · rw [edited.disk.start]
      exact (edited.disk.edited _ _ List.lookup_cons_self).2

theorem replace_done {ks : List Kill} (h : s.replace entity ks = (b, t)) :
    (b = false ∧ s.FailedFor t entity) ∨
      (b = true ∧ ∃ key, keyOf? entity = some key ∧ s.Fits key ∧
        s.Edited t [(s.logAt key, some (Log.write ks)), (s.spareAt key, none)]) := by
  unfold replace tryReplace at h
  cases keyed : keyOf entity with
  | error fault =>
    rw [keyed] at h
    cases h
    exact .inl ⟨rfl, .inl (edited_rfl rfl rfl)⟩
  | ok key =>
    rw [keyed] at h
    have keyed := keyOf_eq_ok.mp keyed
    rcases replace_reported (s := s) keyed h with failed | ⟨rfl, fits, edited⟩
    · exact .inl failed
    · exact .inr ⟨rfl, key, keyed, fits, edited⟩

/-- What was there is taken away; what was not there could not be read either. -/
theorem delete_cases (h : s.delete entity = (b, t)) :
    (b = false ∧ s.Edited t []) ∨
      (b = true ∧ ∃ key, keyOf? entity = some key ∧
        (s.Edited t [(s.logAt key, none)] ∨
          s.Edited t [] ∧ ∀ content, s.disk.read (s.selection.logPath key) ≠ .ok content)) := by
  unfold delete tryDelete at h
  cases keyed : keyOf entity with
  | error fault =>
    rw [keyed] at h
    cases h
    exact .inl ⟨rfl, edited_rfl rfl rfl⟩
  | ok key =>
    rw [keyed] at h
    have keyed := keyOf_eq_ok.mp keyed
    have plain := logName_plain (canonical_of_keyOf? keyed)
    dsimp only at h
    split at h
    · rename_i d removed
      cases h
      exact .inr ⟨rfl, key, keyed, .inl ⟨rfl, Disk.remove_changed plain removed⟩⟩
    · rename_i missing
      cases h
      exact .inr ⟨rfl, key, keyed, .inr ⟨edited_rfl rfl rfl, Disk.unread_of_missing missing⟩⟩
    · cases h
      exact .inl ⟨rfl, edited_rfl rfl rfl⟩

theorem amended_eq (entity : String) (ds : List Drop) (ks : List Kill) :
    Log.amended ks ds = if ks = [] then none else some (withDrops entity ds ks) := by
  unfold Log.amended withDrops
  cases last : ks.getLast? with
  | none =>
    rw [if_pos (List.getLast?_eq_none_iff.mp last)]
    rfl
  | some kill =>
    have some : ks ≠ [] := by
      rintro rfl
      cases last
    rw [if_neg some]
    rfl

/-- Where there are kills, drops are added by a replacement, and where there are none, by an
addition; no more than the notices are others. Where the log cannot be read, nothing is done. -/
theorem amendLast_does {ds : List Drop} (keyed : keyOf? entity = some key) (given : ds ≠ []) :
    ∃ r notices, s.amendLast entity ds = (r.1, { r.2 with notices }) ∧
      ((r = (false, s) ∧ ∀ content, s.disk.read (s.selection.logPath key) ≠ .ok content) ∨
        (s.recorded key = [] ∧ r = s.append (Kill.ofEvent (Text.trim entity) unknown ds)) ∨
        (s.recorded key ≠ [] ∧ r = s.replace entity (withDrops entity ds (s.recorded key)))) := by
  have not_empty : ds.isEmpty = false := by simpa using given
  unfold amendLast tryAmendLast
  rw [not_empty, if_neg Bool.false_ne_true, keyOf_eq_ok.mpr keyed]
  dsimp only
  cases shown : s.readLog entity with
  | mk result u =>
    obtain ⟨⟨notices, rfl⟩, _⟩ := readLog_cases keyed shown
    cases result with
    | error fault =>
      refine ⟨(false, s), _, rfl, .inl ⟨rfl, ?_⟩⟩
      intro content readable
      unfold readLog Selection.entityFile at shown
      rw [keyOf_eq_ok.mpr keyed, logOf_eq keyed, Disk.readLog, readable] at shown
      cases shown
    | ok log =>
      dsimp only
      rw [(readLog_ok keyed shown).1, amended_eq entity]
      by_cases none : s.recorded key = []
      · have trimmed := (keyOf?_trim entity).trans keyed
        obtain ⟨_, appended⟩ :=
          append_eq (s := s) (k := Kill.ofEvent (Text.trim entity) unknown ds) trimmed
        obtain ⟨more, amended⟩ := reported_eq s notices
          (s.extendLog key (Kill.ofEvent (Text.trim entity) unknown ds)) (.nothingToAmend entity)
          (.amendFailed entity)
        refine ⟨_, more, ?_, .inr (.inl ⟨none, rfl⟩)⟩
        rw [if_pos none, appended]
        exact amended
      · obtain ⟨_, replaced⟩ :=
          replace_eq (s := s) keyed (withDrops entity ds (s.recorded key))
        obtain ⟨noting, noted⟩ := noted_if (s := { s with notices }) (c := log.skipped = 0)
          (.amendSkips entity log.skipped)
        obtain ⟨more, amended⟩ := reported_eq s noting
          (s.replaceLog key (withDrops entity ds (s.recorded key))) (.amended entity)
          (.amendFailed entity)
        refine ⟨_, more, ?_, .inr (.inr ⟨none, rfl⟩)⟩
        rw [if_neg none, replaced, noted]
        exact amended

theorem amendLast_unkeyed {ds : List Drop} (unkeyed : keyOf? entity = none) (given : ds ≠ []) :
    ∃ notices, s.amendLast entity ds = (false, { s with notices }) := by
  have not_empty : ds.isEmpty = false := by simpa using given
  unfold amendLast tryAmendLast keyOf
  rw [not_empty, if_neg Bool.false_ne_true, unkeyed]
  exact ⟨_, rfl⟩

theorem amendLast_cases {ds : List Drop} (h : s.amendLast entity ds = (b, t)) :
    (b = false ∧ s.FailedFor t entity) ∨
      (b = true ∧ ds.isEmpty = true ∧ s.Edited t []) ∨
      (b = true ∧ ds.isEmpty = false ∧ ∃ key, keyOf? entity = some key ∧ s.Fits key ∧
        ((s.recorded key = [] ∧
          s.Edited t [(s.logAt key, some (s.bytesOf key ++
            freshLine (s.bytesOf key)
              (Log.write [Kill.ofEvent (Text.trim entity) unknown ds])))]) ∨
        (s.recorded key ≠ [] ∧
          s.Edited t [(s.logAt key, some (Log.write (withDrops entity ds (s.recorded key)))),
            (s.spareAt key, none)]))) := by
  by_cases given : ds = []
  · subst given
    cases h
    exact .inr (.inl ⟨rfl, rfl, edited_rfl rfl rfl⟩)
  have not_empty : ds.isEmpty = false := by simpa using given
  cases keyed : keyOf? entity with
  | none =>
    obtain ⟨notices, refused⟩ := amendLast_unkeyed (s := s) keyed given
    rw [refused] at h
    cases h
    exact .inl ⟨rfl, .inl (edited_rfl rfl rfl)⟩
  | some key =>
    obtain ⟨⟨r, u⟩, notices, same, ⟨nothing, _⟩ | ⟨none, added⟩ | ⟨some, replaced⟩⟩ :=
      amendLast_does (s := s) keyed given
    · rw [same] at h
      cases nothing
      cases h
      exact .inl ⟨rfl, .inl (edited_rfl rfl rfl)⟩
    · rw [same] at h
      cases h
      rcases append_cases added.symm with ⟨rfl, kept⟩ | ⟨rfl, own, keyed', fits, edited⟩
      · exact .inl ⟨rfl, .inl ⟨kept.selection, kept.disk⟩⟩
      · obtain rfl := Option.some.inj (keyed.symm.trans ((keyOf?_trim entity).symm.trans keyed'))
        refine .inr (.inr ⟨rfl, not_empty, key, rfl, fits, .inl ⟨none, ?_⟩⟩)
        exact ⟨edited.selection, edited.disk⟩
    · rw [same] at h
      cases h
      rcases replace_done replaced.symm with ⟨rfl, failed⟩ | ⟨rfl, own, keyed', fits, edited⟩
      · exact .inl ⟨rfl, failed.noted _⟩
      · obtain rfl := Option.some.inj (keyed.symm.trans keyed')
        refine .inr (.inr ⟨rfl, not_empty, key, rfl, fits, .inr ⟨some, ?_⟩⟩)
        exact ⟨edited.selection, edited.disk⟩

theorem tryMigrate_cases {r : Except StoreFault Bool} (h : s.tryMigrate entity = (r, t)) :
    (∃ fault, r = .error fault ∧ s.FailedFor t entity) ∨
      ∃ key, keyOf? entity = some key ∧
        ((r = .ok false ∧ s.olderIn key = 0 ∧ ∃ notices, t = { s with notices }) ∨
          (r = .ok true ∧ s.olderIn key ≠ 0 ∧ s.Fits key ∧ s.Edited t
            [(s.logAt key, some (Log.write (s.recorded key))), (s.spareAt key, none)])) := by
  unfold tryMigrate at h
  cases keyed : keyOf entity with
  | error fault =>
    rw [keyed] at h
    cases h
    exact .inl ⟨fault, rfl, .inl (edited_rfl rfl rfl)⟩
  | ok key =>
    rw [keyed] at h
    have keyed := keyOf_eq_ok.mp keyed
    dsimp only at h
    cases shown : s.readLog entity with
    | mk r u =>
      rw [shown] at h
      obtain ⟨⟨notices, rfl⟩, _⟩ := readLog_cases keyed shown
      cases r with
      | error fault =>
        cases h
        exact .inl ⟨fault, rfl, .inl (edited_rfl rfl rfl)⟩
      | ok log =>
        obtain ⟨kills, older⟩ := readLog_ok keyed shown
        dsimp only at h
        rw [kills, older] at h
        split at h
        · rename_i none
          cases h
          exact .inr ⟨key, keyed, .inl ⟨rfl, none, notices, rfl⟩⟩
        · rename_i some
          obtain ⟨_, noted⟩ := noted_if (s := { s with notices }) (c := log.skipped = 0)
            (.migrationSkips entity log.skipped)
          rw [noted] at h
          cases done : concluded _ _ _ with
          | mk result v =>
            rw [done] at h
            rcases replace_concluded (s := s) keyed done with ⟨fault, rfl, failed⟩ | ⟨rfl, written⟩
            · cases h
              exact .inl ⟨fault, rfl, failed⟩
            · cases h
              exact .inr ⟨key, keyed, .inr ⟨rfl, some, written⟩⟩

theorem migrate_cases (h : s.migrate entity = (b, t)) :
    (b = false ∧ s.FailedFor t entity) ∨
      (b = true ∧ ∃ key, keyOf? entity = some key ∧ (s.Edited t [] ∨
        (s.olderIn key ≠ 0 ∧ s.Fits key ∧ s.Edited t
          [(s.logAt key, some (Log.write (s.recorded key))), (s.spareAt key, none)]))) := by
  unfold migrate at h
  cases done : s.tryMigrate entity with
  | mk r u =>
    rw [done] at h
    rcases tryMigrate_cases done with
      ⟨fault, rfl, failed⟩ | ⟨key, keyed, ⟨rfl, _, notices, rfl⟩ | ⟨rfl, written⟩⟩
    · cases h
      exact .inl ⟨rfl, failed.noted _⟩
    · cases h
      exact .inr ⟨rfl, key, keyed, .inl (edited_rfl rfl rfl)⟩
    · cases h
      exact .inr ⟨rfl, key, keyed, .inr written⟩

theorem selectPlayer_refused {player : Option String} {fault : StoreFault}
    (refused : s.selection.select player = .error fault) :
    s.selectPlayer player = (false, s.note (.playerRefused fault)) := by
  rw [selectPlayer, refused]

theorem selectPlayer_chosen {player : Option String} {one : Selection}
    (chosen : s.selection.select player = .ok one) :
    (s.selectPlayer player).2.selection = one ∧
      (s.selectPlayer player).2.disk = (s.disk.makeDirs one.directory).2 := by
  unfold selectPlayer
  rw [chosen]
  dsimp only
  split
  · rename_i made
    exact ⟨rfl, by rw [made]; rfl⟩
  · rename_i made
    exact ⟨rfl, by rw [made]; rfl⟩

/-- A refused player changes nothing. An accepted one is selected, whatever comes of the
directory. -/
theorem selectPlayer_cases {player : Option String} (h : s.selectPlayer player = (b, t)) :
    (b = false ∧ s.Edited t []) ∨
      ∃ selection, s.selection.select player = .ok selection ∧ t.selection = selection ∧
        Disk.Changed (Disk.Toward selection.directory s.disk.start) [] s.disk t.disk := by
  cases chosen : s.selection.select player with
  | error fault =>
    rw [selectPlayer_refused chosen] at h
    cases h
    exact .inl ⟨rfl, edited_rfl rfl rfl⟩
  | ok selection =>
    obtain ⟨selected, disk⟩ := selectPlayer_chosen chosen
    rw [h] at selected disk
    refine .inr ⟨selection, rfl, selected, ?_⟩
    rw [disk]
    exact Disk.makeDirs_changed s.disk selection.directory

end Store

end DropLedger
