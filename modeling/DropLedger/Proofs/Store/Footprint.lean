import DropLedger.Proofs.Disk.Journal
import DropLedger.Proofs.Store.Failure

/-! The files that a request works on. They are the log of its entity and the spare file of that
log, and both stand in the root or in the directory of a player in it. -/
namespace DropLedger.Store

variable {s t : Store} {entity key : String}

/-- The log of the entity of a request, or its spare file. -/
def FileOf (s : Store) (r : Request) (loc : Location) : Prop :=
  ∃ entity key, r.entity? = some entity ∧ keyOf? entity = some key ∧
    (loc = s.logAt key ∨ loc = s.spareAt key)

theorem goal_sparePath (keyed : keyOf? entity = some key) :
    goal ((s.selection.sparePath key).route s.disk.start) = s.spareAt key :=
  Path.goal_child (spareName_plain (canonical_of_keyOf? keyed)) s.disk.start

theorem concluded_disk (s : Store) (done : Except Cause Unit × Disk) (n : Notice) :
    (s.concluded done n).2.disk = done.2 := by
  obtain ⟨_ | _, d⟩ := done <;> rfl

theorem reported_disk {α : Type} (a : Attempt α) (n : StoreFault → Notice) :
    (a.reported n).2.disk = a.2.disk := by
  obtain ⟨_ | _, s⟩ := a <;> rfl

/-- How a request for an entity may come by the disk it leaves. -/
inductive Leaves (s : Store) (entity : String) : Disk → Prop where
  | same : Leaves s entity s.disk
  | extended {key : String} (keyed : keyOf? entity = some key) (k : Kill) :
      Leaves s entity (s.extendLog key k).2
  | replaced {key : String} (keyed : keyOf? entity = some key) (ks : List Kill) :
      Leaves s entity (s.replaceLog key ks).2
  | removed {key : String} {d : Disk} (keyed : keyOf? entity = some key)
      (removed : s.disk.remove (s.selection.logPath key) = .ok d) : Leaves s entity d

theorem tryAppend_leaves (s : Store) (k : Kill) : s.Leaves k.name (s.tryAppend k).2.disk := by
  unfold tryAppend
  cases keyed : keyOf k.name with
  | error fault => exact .same
  | ok key =>
    dsimp only
    rw [concluded_disk]
    exact .extended (keyOf_eq_ok.mp keyed) k

theorem tryReplace_leaves (s : Store) (entity : String) (ks : List Kill) :
    s.Leaves entity (s.tryReplace entity ks).2.disk := by
  unfold tryReplace
  cases keyed : keyOf entity with
  | error fault => exact .same
  | ok key =>
    dsimp only
    rw [concluded_disk]
    exact .replaced (keyOf_eq_ok.mp keyed) ks

theorem tryDelete_leaves (s : Store) (entity : String) :
    s.Leaves entity (s.tryDelete entity).2.disk := by
  unfold tryDelete
  cases keyed : keyOf entity with
  | error fault => exact .same
  | ok key =>
    dsimp only
    split
    · rename_i removed
      exact .removed (keyOf_eq_ok.mp keyed) removed
    · exact .same
    · exact .same

theorem tryAmendLast_leaves (s : Store) (entity : String) (ds : List Drop) :
    s.Leaves entity (s.tryAmendLast entity ds).2.disk := by
  unfold tryAmendLast
  split
  · exact .same
  · cases keyed : keyOf entity with
    | error fault => exact .same
    | ok key =>
      have keyed := keyOf_eq_ok.mp keyed
      obtain ⟨notices, read⟩ := readLog_eq s entity
      dsimp only
      rw [read]
      cases s.logOf entity with
      | error fault => exact .same
      | ok log =>
        dsimp only
        split
        · rw [concluded_disk]
          exact .extended keyed _
        · obtain ⟨_, noted⟩ := noted_if (s := { s with notices }) (c := log.skipped = 0)
            (.amendSkips entity log.skipped)
          rw [noted, concluded_disk]
          exact .replaced keyed _

theorem tryMigrate_leaves (s : Store) (entity : String) :
    s.Leaves entity (s.tryMigrate entity).2.disk := by
  unfold tryMigrate
  cases keyed : keyOf entity with
  | error fault => exact .same
  | ok key =>
    have keyed := keyOf_eq_ok.mp keyed
    obtain ⟨notices, read⟩ := readLog_eq s entity
    dsimp only
    rw [read]
    cases s.logOf entity with
    | error fault => exact .same
    | ok log =>
      dsimp only
      split
      · exact .same
      · obtain ⟨_, noted⟩ := noted_if (s := { s with notices }) (c := log.skipped = 0)
          (.migrationSkips entity log.skipped)
        rw [noted]
        dsimp only
        rw [concluded_disk]
        exact .replaced keyed _

theorem perform_leaves {r : Request} (about : r.entity? = some entity) :
    s.Leaves entity (s.perform r).2.disk := by
  have reported {α : Type} {a : Attempt α} (leaves : s.Leaves entity a.2.disk)
      (n : StoreFault → Notice) : s.Leaves entity (a.reported n).2.disk := by
    rw [reported_disk]
    exact leaves
  cases r with
  | selectPlayer player => cases about
  | append kill =>
    cases about
    exact reported (tryAppend_leaves s kill) _
  | replace entity kills =>
    cases about
    exact reported (tryReplace_leaves s entity kills) _
  | amendLast entity drops =>
    cases about
    exact reported (tryAmendLast_leaves s entity drops) _
  | delete entity =>
    cases about
    exact reported (tryDelete_leaves s entity) _
  | migrate entity =>
    cases about
    exact reported (tryMigrate_leaves s entity) _

theorem Leaves.wrote {r : Request} {d : Disk} (about : r.entity? = some entity)
    (leaves : s.Leaves entity d) : Disk.Wrote (s.FileOf r) s.disk d := by
  have log {key : String} (keyed : keyOf? entity = some key) :
      s.FileOf r (goal ((s.selection.logPath key).route s.disk.start)) := by
    rw [goal_logPath keyed]
    exact ⟨entity, key, about, keyed, .inl rfl⟩
  cases leaves with
  | same => exact .refl
  | extended keyed k => exact Disk.appendLine_wrote (log keyed) _
  | replaced keyed ks =>
    refine Disk.replace_wrote (log keyed) ?_ _
    rw [goal_sparePath keyed]
    exact ⟨entity, _, about, keyed, .inr rfl⟩
  | removed keyed removed => exact Disk.remove_wrote (log keyed) removed

theorem selectPlayer_wrote {inside : Location → Prop} (s : Store) (player : Option String) :
    Disk.Wrote inside s.disk (s.selectPlayer player).2.disk := by
  cases chosen : s.selection.select player with
  | error fault =>
    rw [selectPlayer_refused chosen]
    exact .refl
  | ok selection =>
    rw [(selectPlayer_chosen chosen).2]
    exact Disk.makeDirs_wrote _ _

/-- A request works on the log of its entity and on the spare file of that log, and on no other
file. -/
theorem perform_wrote (s : Store) (r : Request) :
    Disk.Wrote (s.FileOf r) s.disk (s.perform r).2.disk := by
  cases about : r.entity? with
  | some entity => exact (perform_leaves about).wrote about
  | none =>
    cases r with
    | selectPlayer player => exact selectPlayer_wrote s player
    | _ => cases about

/-- A file of the root or of a directory in it. -/
def Within (root : Path) (start loc : Location) : Prop :=
  ∃ names, loc = goal (root.route start) ++ names ∧ (names.length = 1 ∨ names.length = 2)

theorem within_directory (proper : s.selection.Proper) (name : Bytes) :
    Within s.selection.root s.disk.start
      (goal (s.selection.directory.route s.disk.start) ++ [name]) := by
  rw [Selection.goal_directory proper, List.append_assoc]
  refine ⟨_, rfl, ?_⟩
  unfold Selection.branch
  cases s.selection.player with
  | none => exact .inl rfl
  | some player => exact .inr rfl

theorem within_fileOf (proper : s.selection.Proper) {r : Request} {loc : Location}
    (file : s.FileOf r loc) : Within s.selection.root s.disk.start loc := by
  obtain ⟨entity, key, _, _, rfl | rfl⟩ := file
  · exact within_directory proper _
  · exact within_directory proper _

end DropLedger.Store
