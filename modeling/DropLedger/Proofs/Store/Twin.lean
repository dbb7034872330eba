import DropLedger.Proofs.Disk.AlikeWriting
import DropLedger.Proofs.Store.Footprint

/-! Stores that differ only in what some files hold. Where the logs of the selected directory are
among the other files, every request comes to the same on both, and so does all that is read. -/
namespace DropLedger.Store

/-- The same store but for what files hold that are not inside. -/
def Twin (inside : Location → Prop) (s t : Store) : Prop :=
  ∃ e, Disk.Alike inside s.disk e ∧ t = { s with disk := e }

/-- Both come to the same and leave twins. -/
def Matched {α : Type} (inside : Location → Prop) (x y : α × Store) : Prop :=
  y.1 = x.1 ∧ Twin inside x.2 y.2

variable {inside : Location → Prop} {s t : Store} {entity key : String}

theorem concluded_matched {x y : Except Cause Unit × Disk} (both : Disk.Both inside x y)
    (e : Disk) (n : Notice) :
    Matched inside (s.concluded x n) (({ s with disk := e } : Store).concluded y n) := by
  rcases both.cases with ⟨cause, d, d', rfl, rfl, alike⟩ | ⟨d, d', rfl, rfl, alike⟩
  · exact ⟨rfl, d', alike, rfl⟩
  · exact ⟨rfl, d', alike, rfl⟩

theorem reported_matched {α : Type} {a b : Attempt α} (h : Matched inside a b)
    (n : StoreFault → Notice) : Matched inside (a.reported n) (b.reported n) := by
  obtain ⟨r, s⟩ := a
  obtain ⟨r', t⟩ := b
  obtain ⟨same, e, alike, whole⟩ := h
  cases same
  cases whole
  cases r with
  | ok _ => exact ⟨rfl, e, alike, rfl⟩
  | error _ => exact ⟨rfl, e, alike, rfl⟩

section Logs

variable (logs : ∀ key, inside (s.logAt key))
include logs

section Alike

variable {e : Disk} (alike : Disk.Alike inside s.disk e)
include alike

theorem logOf_alike (entity : String) :
    ({ s with disk := e } : Store).logOf entity = s.logOf entity := by
  cases keyed : keyOf? entity with
  | none =>
    unfold logOf Selection.entityFile keyOf
    rw [keyed]
    rfl
  | some key =>
    have within := logs key
    rw [← goal_logPath keyed] at within
    rw [logOf_eq keyed, logOf_eq keyed]
    dsimp only
    rw [Disk.readLog, Disk.read_alike alike within]
    rfl

/-- Twins read the same log and report the same of it. -/
theorem readLog_alike (entity : String) :
    ∃ notices, s.readLog entity = (s.logOf entity, { s with notices }) ∧
      ({ s with disk := e } : Store).readLog entity =
        (s.logOf entity, ⟨e, s.selection, notices⟩) := by
  have same := logOf_alike logs alike entity
  unfold readLog
  rw [same]
  dsimp only
  cases s.selection.entityFile entity with
  | error fault => exact ⟨s.notices, rfl, rfl⟩
  | ok path =>
    cases s.logOf entity with
    | error fault => exact ⟨s.notices, rfl, rfl⟩
    | ok log => exact ⟨_, rfl, rfl⟩

theorem extendLog_alike (keyed : keyOf? entity = some key) (k : Kill) :
    Disk.Both inside (s.extendLog key k) (({ s with disk := e } : Store).extendLog key k) := by
  apply Disk.appendLine_alike alike
  rw [goal_logPath keyed]
  exact logs key

omit logs in
theorem replaceLog_alike (keyed : keyOf? entity = some key) (ks : List Kill) :
    Disk.Both inside (s.replaceLog key ks) (({ s with disk := e } : Store).replaceLog key ks) := by
  have canonical := canonical_of_keyOf? keyed
  exact Disk.replace_alike alike (logName_plain canonical) (spareName_plain canonical) _

end Alike

variable (twin : Twin inside s t)
include twin

theorem tryAppend_matched (k : Kill) : Matched inside (s.tryAppend k) (t.tryAppend k) := by
  obtain ⟨e, alike, rfl⟩ := twin
  unfold tryAppend
  cases keyed : keyOf k.name with
  | error fault => exact ⟨rfl, e, alike, rfl⟩
  | ok key => exact concluded_matched (extendLog_alike logs alike (keyOf_eq_ok.mp keyed) k) e _

omit logs in
theorem tryReplace_matched (entity : String) (ks : List Kill) :
    Matched inside (s.tryReplace entity ks) (t.tryReplace entity ks) := by
  obtain ⟨e, alike, rfl⟩ := twin
  unfold tryReplace
  cases keyed : keyOf entity with
  | error fault => exact ⟨rfl, e, alike, rfl⟩
  | ok key => exact concluded_matched (replaceLog_alike alike (keyOf_eq_ok.mp keyed) ks) e _

omit logs in
theorem tryDelete_matched (entity : String) :
    Matched inside (s.tryDelete entity) (t.tryDelete entity) := by
  obtain ⟨e, alike, rfl⟩ := twin
  unfold tryDelete
  cases keyed : keyOf entity with
  | error fault => exact ⟨rfl, e, alike, rfl⟩
  | ok key =>
    have plain := logName_plain (canonical_of_keyOf? (keyOf_eq_ok.mp keyed))
    have removes := Disk.remove_alike (p := s.selection.directory) alike plain
    unfold Selection.logPath
    dsimp only
    rcases removes.cases with ⟨cause, left, right⟩ | ⟨d, d', left, right, after⟩
    · rw [left, right]
      cases cause <;> exact ⟨rfl, e, alike, rfl⟩
    · rw [left, right]
      exact ⟨rfl, d', after, rfl⟩

theorem tryAmendLast_matched (entity : String) (ds : List Drop) :
    Matched inside (s.tryAmendLast entity ds) (t.tryAmendLast entity ds) := by
  obtain ⟨e, alike, rfl⟩ := twin
  unfold tryAmendLast
  split
  · exact ⟨rfl, e, alike, rfl⟩
  cases keyed : keyOf entity with
  | error fault => exact ⟨rfl, e, alike, rfl⟩
  | ok key =>
    have keyed := keyOf_eq_ok.mp keyed
    obtain ⟨notices, read, read'⟩ := readLog_alike logs alike entity
    dsimp only
    rw [read, read']
    cases s.logOf entity with
    | error fault => exact ⟨rfl, e, alike, rfl⟩
    | ok log =>
      dsimp only
      cases Log.amended log.kills ds with
      | none =>
        exact concluded_matched (extendLog_alike (s := { s with notices }) logs alike keyed _) e _
      | some ks =>
        dsimp only
        split
        · exact concluded_matched (replaceLog_alike (s := { s with notices }) alike keyed ks) e _
        · exact concluded_matched
            (replaceLog_alike (s := { s with notices := _ :: notices }) alike keyed ks) e _

theorem tryMigrate_matched (entity : String) :
    Matched inside (s.tryMigrate entity) (t.tryMigrate entity) := by
  obtain ⟨e, alike, rfl⟩ := twin
  unfold tryMigrate
  cases keyed : keyOf entity with
  | error fault => exact ⟨rfl, e, alike, rfl⟩
  | ok key =>
    have keyed := keyOf_eq_ok.mp keyed
    obtain ⟨notices, read, read'⟩ := readLog_alike logs alike entity
    dsimp only
    rw [read, read']
    cases s.logOf entity with
    | error fault => exact ⟨rfl, e, alike, rfl⟩
    | ok log =>
      have writes : ∀ notices n, Matched inside
          (concluded { s with notices } (s.replaceLog key log.kills) n)
          (concluded ⟨e, s.selection, notices⟩
            (({ s with disk := e } : Store).replaceLog key log.kills) n) :=
        fun notices n => concluded_matched (s := { s with notices })
          (replaceLog_alike alike keyed log.kills) e n
      dsimp only
      split
      · exact ⟨rfl, e, alike, rfl⟩
      · split
        · obtain ⟨same, twin⟩ := writes notices (.migrated entity log.older log.kills.length)
          exact ⟨congrArg (Except.map fun _ => true) same, twin⟩
        · obtain ⟨same, twin⟩ := writes (.migrationSkips entity log.skipped :: notices)
            (.migrated entity log.older log.kills.length)
          exact ⟨congrArg (Except.map fun _ => true) same, twin⟩

omit logs in
theorem selectPlayer_matched (player : Option String) :
    Matched inside (s.selectPlayer player) (t.selectPlayer player) := by
  obtain ⟨e, alike, rfl⟩ := twin
  unfold selectPlayer
  cases s.selection.select player with
  | error fault => exact ⟨rfl, e, alike, rfl⟩
  | ok selection =>
    dsimp only
    rcases (Disk.makeDirs_alike alike selection.directory).cases with
      ⟨cause, d, d', left, right, after⟩ | ⟨d, d', left, right, after⟩
    · rw [left, right]
      exact ⟨rfl, d', after, rfl⟩
    · rw [left, right]
      exact ⟨rfl, d', after, rfl⟩

theorem perform_matched (r : Request) : Matched inside (s.perform r) (t.perform r) := by
  cases r with
  | selectPlayer player => exact selectPlayer_matched twin player
  | append kill =>
    exact reported_matched (tryAppend_matched logs twin kill) (.appendFailed kill.name)
  | replace entity kills =>
    exact reported_matched (tryReplace_matched twin entity kills) (.replaceFailed entity)
  | amendLast entity drops =>
    exact reported_matched (tryAmendLast_matched logs twin entity drops) (.amendFailed entity)
  | delete entity => exact reported_matched (tryDelete_matched twin entity) (.deleteFailed entity)
  | migrate entity =>
    exact reported_matched (tryMigrate_matched logs twin entity) (.migrateFailed entity)

theorem load_matched (entity : String) : Matched inside (s.load entity) (t.load entity) := by
  obtain ⟨e, alike, rfl⟩ := twin
  obtain ⟨notices, read, read'⟩ := readLog_alike logs alike entity
  unfold load tryLoad
  rw [read, read']
  cases s.logOf entity with
  | error fault => exact ⟨rfl, e, alike, rfl⟩
  | ok log => exact ⟨rfl, e, alike, rfl⟩

theorem needsMigration_matched (entity : String) :
    Matched inside (s.needsMigration entity) (t.needsMigration entity) := by
  obtain ⟨e, alike, rfl⟩ := twin
  obtain ⟨notices, read, read'⟩ := readLog_alike logs alike entity
  unfold needsMigration
  rw [read, read']
  cases s.logOf entity with
  | error fault => exact ⟨rfl, e, alike, rfl⟩
  | ok log => exact ⟨rfl, e, alike, rfl⟩

omit logs in
theorem keysIn_matched (directory : Path) :
    Matched inside (s.keysIn directory) (t.keysIn directory) := by
  obtain ⟨e, alike, rfl⟩ := twin
  unfold keysIn Disk.keys Disk.strays
  dsimp only
  rw [Disk.fileNames_alike alike]
  exact ⟨rfl, e, alike, rfl⟩

omit twin in
theorem loadEach_matched (twin : Twin inside s t) (keys : List String) :
    Matched inside (s.loadEach keys) (t.loadEach keys) := by
  induction keys generalizing s t with
  | nil => exact ⟨rfl, twin⟩
  | cons key keys ih =>
    obtain ⟨e, alike, rfl⟩ := twin
    obtain ⟨notices, read, read'⟩ := readLog_alike logs alike key
    unfold loadEach tryLoad
    rw [read, read']
    cases s.logOf key with
    | error fault =>
      obtain ⟨same, twin⟩ :=
        ih (s := { s with notices := .listedLoadFailed key fault :: notices }) logs ⟨e, alike, rfl⟩
      exact ⟨congrArg ([] ++ ·) same, twin⟩
    | ok log =>
      obtain ⟨same, twin⟩ := ih (s := { s with notices }) logs ⟨e, alike, rfl⟩
      exact ⟨congrArg (log.kills ++ ·) same, twin⟩

theorem loadAll_matched : Matched inside s.loadAll t.loadAll := by
  obtain ⟨e, alike, rfl⟩ := twin
  unfold loadAll keys keysIn Disk.keys Disk.strays
  dsimp only
  rw [Disk.fileNames_alike alike]
  exact loadEach_matched (s := s.noteAll _) logs ⟨e, alike, rfl⟩ _

end Logs

end DropLedger.Store
