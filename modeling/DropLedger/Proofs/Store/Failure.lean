import DropLedger.Proofs.Store.Ledger
import DropLedger.Proofs.Store.Loading

/-! Requests that fail. They may leave new directories, but every file is as it was, the spare file
of the request apart. A player whose directory cannot be made stays selected. -/
namespace DropLedger

namespace Request

/-- The entity whose log a request is about. -/
def entity? : Request → Option String
  | .selectPlayer _ => none
  | .append kill => some kill.name
  | .replace entity _ => some entity
  | .amendLast entity _ => some entity
  | .delete entity => some entity
  | .migrate entity => some entity

/-- The request selects a player and is not refused. -/
def Switches (current : Selection) (r : Request) : Prop :=
  ∃ player chosen, r = .selectPlayer player ∧ current.select player = .ok chosen

end Request

namespace Store

/-- The request failed, and reported that or handed the failure on. -/
inductive Fails (s t : Store) : Request → Prop where
  | reported {r : Request} (done : s.perform r = (false, t)) : Fails s t r
  | append {kill : Kill} {fault : StoreFault} (done : s.tryAppend kill = (.error fault, t)) :
      Fails s t (.append kill)
  | replace {entity : String} {kills : List Kill} {fault : StoreFault}
      (done : s.tryReplace entity kills = (.error fault, t)) : Fails s t (.replace entity kills)
  | amendLast {entity : String} {drops : List Drop} {fault : StoreFault}
      (done : s.tryAmendLast entity drops = (.error fault, t)) :
      Fails s t (.amendLast entity drops)
  | delete {entity : String} {fault : StoreFault}
      (done : s.tryDelete entity = (.error fault, t)) : Fails s t (.delete entity)
  | migrate {entity : String} {fault : StoreFault}
      (done : s.tryMigrate entity = (.error fault, t)) : Fails s t (.migrate entity)

/-- The place of the spare file of a request. -/
def SpareOf (s : Store) (r : Request) (loc : Location) : Prop :=
  ∃ entity key, r.entity? = some entity ∧ keyOf? entity = some key ∧ loc = s.spareAt key

variable {s t : Store} {r : Request} {edits : List (Location × Option Bytes)}

/-- The form that reports comes to the same as the form that hands the failure on. -/
theorem Fails.perform (failed : s.Fails t r) :
    ∃ notices, s.perform r = (false, { t with notices }) := by
  cases failed with
  | reported done => exact ⟨t.notices, done⟩
  | @append kill _ done =>
    exact ⟨_, congrArg (fun a => Attempt.reported a (.appendFailed kill.name)) done⟩
  | @replace entity _ _ done =>
    exact ⟨_, congrArg (fun a => Attempt.reported a (.replaceFailed entity)) done⟩
  | @amendLast entity _ _ done =>
    exact ⟨_, congrArg (fun a => Attempt.reported a (.amendFailed entity)) done⟩
  | @delete entity _ done =>
    exact ⟨_, congrArg (fun a => Attempt.reported a (.deleteFailed entity)) done⟩
  | @migrate entity _ done =>
    exact ⟨_, congrArg (fun a => Attempt.reported a (.migrateFailed entity)) done⟩

/-- What a failed request may have done to the disk: new directories, and its spare file gone. -/
def LeftBy (s t : Store) (r : Request) : Prop :=
  ∃ new edits, Disk.Changed new edits s.disk t.disk ∧
    ∀ loc content, edits.lookup loc = some content → content = none ∧ s.SpareOf r loc

theorem leftBy_edited (kept : s.Edited t []) : s.LeftBy t r := ⟨_, [], kept.disk, nofun⟩

theorem leftBy_failed {entity : String} (about : r.entity? = some entity)
    (failed : s.FailedFor t entity) : s.LeftBy t r := by
  rcases failed with kept | ⟨key, keyed, spared⟩
  · exact leftBy_edited kept
  · refine ⟨_, _, spared.disk, ?_⟩
    intro loc content edit
    by_cases hit : loc = s.spareAt key
    · rw [hit, List.lookup_cons_self] at edit
      exact ⟨(Option.some.inj edit).symm, entity, key, about, keyed, hit⟩
    · rw [lookup_cons_ne _ _ hit] at edit
      cases edit

theorem perform_leftBy (done : s.perform r = (false, t)) : s.LeftBy t r := by
  cases r with
  | selectPlayer player =>
    rcases selectPlayer_cases done with ⟨_, kept⟩ | ⟨_, _, _, made⟩
    · exact leftBy_edited kept
    · exact ⟨_, [], made, nofun⟩
  | append kill =>
    rcases append_cases done with ⟨_, kept⟩ | ⟨ok, _⟩
    · exact leftBy_edited kept
    · cases ok
  | replace entity kills =>
    rcases replace_done done with ⟨_, failed⟩ | ⟨ok, _⟩
    · exact leftBy_failed rfl failed
    · cases ok
  | amendLast entity drops =>
    rcases amendLast_cases done with ⟨_, failed⟩ | ⟨ok, _⟩ | ⟨ok, _⟩
    · exact leftBy_failed rfl failed
    · cases ok
    · cases ok
  | delete entity =>
    rcases delete_cases done with ⟨_, kept⟩ | ⟨ok, _⟩
    · exact leftBy_edited kept
    · cases ok
  | migrate entity =>
    rcases migrate_cases done with ⟨_, failed⟩ | ⟨ok, _⟩
    · exact leftBy_failed rfl failed
    · cases ok

theorem Fails.leftBy (failed : s.Fails t r) : s.LeftBy t r := by
  obtain ⟨notices, done⟩ := failed.perform
  have left : s.LeftBy { t with notices } r := perform_leftBy done
  exact left

theorem view_entity {other : Selection} {entity key : String} (keyed : keyOf? entity = some key) :
    s.view other entity = s.view other key :=
  (load_recorded (s := { s with selection := other }) keyed).trans
    (load_recorded (s := { s with selection := other }) (keyOf?_key keyed)).symm

theorem view_unkeyed {other : Selection} {entity : String} (unkeyed : keyOf? entity = none) :
    s.view other entity = [] := by
  unfold view
  rw [load_eq]
  simp [logOf, Selection.entityFile, keyOf, unkeyed, Except.map]

/-- Changes that leave the logs of a directory alone leave alone what is loaded from them and which
are listed. -/
theorem views_away {other : Selection} {new : Location → Prop} (proper : other.Proper)
    (settled : s.disk.Settled (other.root.route s.disk.start))
    (made : Disk.Changed new edits s.disk t.disk)
    (away : ∀ key, edits.lookup (other.logAt s.disk.start key) = none) :
    (∀ entity, t.view other entity = s.view other entity) ∧
      t.disk.keys other.directory = s.disk.keys other.directory := by
  refine ⟨?_, made.keys_away (Selection.settled_directory proper settled) away⟩
  intro entity
  cases keyed : keyOf? entity with
  | none => rw [view_unkeyed keyed, view_unkeyed keyed]
  | some key =>
    rw [view_entity keyed, view_entity keyed]
    exact view_away proper settled (keyOf?_key keyed) made (away key)

section LeftBy

variable (left : s.LeftBy t r)
include left

theorem LeftBy.found (loc : Location) :
    t.disk.found loc = s.disk.found loc ∨
      (s.disk.found loc = none ∧ t.disk.found loc = some none) ∨
      ((∃ old, s.disk.found loc = some (some old)) ∧ t.disk.found loc = none ∧
        s.SpareOf r loc) := by
  obtain ⟨new, edits, made, spare⟩ := left
  cases edit : edits.lookup loc with
  | some content =>
    obtain ⟨rfl, spared⟩ := spare loc content edit
    obtain ⟨free, gone⟩ := made.edited loc none edit
    cases before : s.disk.found loc with
    | none => exact .inl gone
    | some old =>
      cases old with
      | none => exact absurd before free
      | some old => exact .inr (.inr ⟨⟨old, rfl⟩, gone, spared⟩)
  | none =>
    rcases made.others loc edit with same | ⟨free, dir, _⟩
    · exact .inl same
    · exact .inr (.inl ⟨free, dir⟩)

theorem LeftBy.views {other : Selection} (proper : other.Proper)
    (settled : s.disk.Settled (other.root.route s.disk.start)) :
    (∀ entity, t.view other entity = s.view other entity) ∧
      t.disk.keys other.directory = s.disk.keys other.directory := by
  obtain ⟨new, edits, made, spare⟩ := left
  have spared : ∀ loc content, edits.lookup loc = some content → ∃ key, loc = s.spareAt key := by
    intro loc content edit
    obtain ⟨_, _, key, _, _, at_spare⟩ := spare loc content edit
    exact ⟨key, at_spare⟩
  exact views_away proper settled made (Selection.spares_away spared)

end LeftBy

section Selected

theorem selectPlayer_failed {player : Option String} (done : s.selectPlayer player = (false, t)) :
    (∀ fault, s.selection.select player = .error fault → t.selection = s.selection) ∧
      ∀ wanted, s.selection.select player = .ok wanted →
        t.selection = wanted ∧ ∃ cause, (s.disk.makeDirs wanted.directory).1 = .error cause := by
  cases chosen : s.selection.select player with
  | error fault =>
    rw [selectPlayer_refused chosen] at done
    cases done
    exact ⟨fun _ _ => rfl, nofun⟩
  | ok selection =>
    refine ⟨nofun, ?_⟩
    rintro wanted ⟨rfl⟩
    unfold selectPlayer at done
    rw [chosen] at done
    dsimp only at done
    cases made : s.disk.makeDirs selection.directory with
    | mk result d =>
      rw [made] at done
      cases result with
      | ok _ => cases done
      | error cause =>
        cases done
        exact ⟨rfl, cause, rfl⟩

theorem perform_stays {b : Bool} (calm : ¬r.Switches s.selection) (done : s.perform r = (b, t)) :
    t.selection = s.selection := by
  rcases perform_edits done with ⟨_, edited, _⟩ | ⟨player, chosen, same, selected, _⟩
  · exact edited.selection
  · exact absurd ⟨player, chosen, same, selected⟩ calm

theorem run_stays (rs : List Request) (calm : ∀ r ∈ rs, ¬r.Switches s.selection) :
    (s.run rs).selection = s.selection ∧
      ∀ loc, ¬s.OwnFile loc → (s.run rs).disk.fileAt loc = s.disk.fileAt loc := by
  induction rs generalizing s with
  | nil => exact ⟨rfl, fun _ _ => rfl⟩
  | cons r rs ih =>
    have selected := perform_stays (calm r List.mem_cons_self) (t := (s.perform r).2) rfl
    have start : (s.perform r).2.disk.start = s.disk.start := perform_start rfl
    have same : (s.perform r).2.OwnFile = s.OwnFile := by
      funext loc
      unfold OwnFile logAt spareAt
      rw [selected, start]
    obtain ⟨still, later⟩ := ih (s := (s.perform r).2)
      (by rw [selected]; exact fun q member => calm q (List.mem_cons_of_mem r member))
    refine ⟨still.trans selected, ?_⟩
    intro loc other
    exact (later loc (by rwa [same])).trans (perform_fileAt rfl other)

end Selected

/-- A request that fails leaves every file as it was and makes none, but its spare file may be gone.
The same is loaded and listed as before under every root whose path does not lead out of a directory
that is missing, as no root does that is there. The selection stays, unless the directory of a
player cannot be made: that player is selected, and what is requested until another is selected
works on the files of that player alone. -/
theorem failure_is_atomic (failed : s.Fails t r) :
    (∀ loc, t.disk.found loc = s.disk.found loc ∨
        (s.disk.found loc = none ∧ t.disk.found loc = some none) ∨
        ((∃ old, s.disk.found loc = some (some old)) ∧ t.disk.found loc = none ∧
          s.SpareOf r loc)) ∧
      (∀ other : Selection, other.Proper → s.disk.Settled (other.root.route s.disk.start) →
        (∀ entity, t.view other entity = s.view other entity) ∧
          t.disk.keys other.directory = s.disk.keys other.directory) ∧
      ((∀ player, r ≠ .selectPlayer player) → t.selection = s.selection) ∧
      ∀ player, r = .selectPlayer player →
        (∀ fault, s.selection.select player = .error fault → t.selection = s.selection) ∧
          ∀ wanted, s.selection.select player = .ok wanted →
            t.selection = wanted ∧
              (∃ cause, (s.disk.makeDirs wanted.directory).1 = .error cause) ∧
              ∀ rs : List Request, (∀ q ∈ rs, ¬q.Switches wanted) →
                (t.run rs).selection = wanted ∧
                  (∀ loc, ¬t.OwnFile loc → (t.run rs).disk.fileAt loc = t.disk.fileAt loc) ∧
                  ∀ other : Selection, other.Proper → other.root = s.selection.root →
                    other.directory ≠ wanted.directory → ∀ key,
                      (t.run rs).disk.fileAt (other.logAt t.disk.start key) =
                        t.disk.fileAt (other.logAt t.disk.start key) := by
  have left := failed.leftBy
  obtain ⟨notices, done⟩ := failed.perform
  refine ⟨left.found, ?_, ?_, ?_⟩
  · intro other proper settled
    exact left.views proper settled
  · intro others
    have calm : ¬r.Switches s.selection := by
      rintro ⟨player, _, same, _⟩
      exact others player same
    exact perform_stays (t := { t with notices }) calm done
  · rintro player rfl
    obtain ⟨refused, taken⟩ := selectPlayer_failed done
    refine ⟨refused, ?_⟩
    intro wanted chosen
    obtain ⟨selected, unmade⟩ := taken wanted chosen
    have now : t.selection = wanted := selected
    refine ⟨now, unmade, ?_⟩
    intro rs calm
    obtain ⟨still, kept⟩ := run_stays rs (s := t) (now ▸ calm)
    refine ⟨still.trans now, kept, ?_⟩
    intro other proper root apart key
    apply kept
    obtain ⟨accepted, same⟩ := Selection.select_accepted chosen
    rintro ⟨j, log | spare⟩
    · unfold logAt at log
      rw [now] at log
      exact apart ((Selection.logAt_eq_iff proper accepted.proper (root.trans same.symm)).mp log).1
    · exact Selection.logAt_ne_spareAt key j spare

/-- The log is a directory, and a spare file was left behind. -/
def blockedLog : Store where
  disk := ⟨.dir [([0x78], .dir [(logName "ab", .dir []), (spareName "ab", .file [0x7B]),
    (logName "c", .file (Log.write [Kill.ofEvent "C" unknown []]))])], [], []⟩
  selection := ⟨⟨[0x78]⟩, none⟩

theorem blockedLog_unreplaced :
    (blockedLog.perform (.replace "AB" [])).1 = false ∧
      (blockedLog.perform (.replace "AB" [])).2.view blockedLog.selection "C" =
        [Kill.ofEvent "C" unknown []] ∧
      (blockedLog.perform (.replace "AB" [])).2.selection = blockedLog.selection := by
  have result : (blockedLog.perform (.replace "AB" [])).1 = false := by decide +kernel
  have failed : blockedLog.Fails (blockedLog.perform (.replace "AB" [])).2 (.replace "AB" []) := by
    apply Fails.reported
    rw [← result]
  have there : blockedLog.disk.isDir blockedLog.selection.root = true := by decide
  have settled := settled_of_isDir there
  obtain ⟨_, loaded, selected, _⟩ := failure_is_atomic failed
  refine ⟨result, ?_, selected nofun⟩
  rw [(loaded blockedLog.selection nofun settled).1]
  decide +kernel

/-- A player has the name of a file there. The missing directory is made before the request fails,
and the root is found from then on. -/
theorem detour_found :
    (detour.perform (.selectPlayer (some "p"))).1 = false ∧
      detour.view detour.selection "a" = [] ∧
      (detour.perform (.selectPlayer (some "p"))).2.view detour.selection "a" =
        [Kill.ofEvent "A" unknown []] ∧
      "a" ∉ detour.disk.keys detour.selection.directory ∧
      "a" ∈ (detour.perform (.selectPlayer (some "p"))).2.disk.keys detour.selection.directory := by
  refine ⟨by decide +kernel, by decide +kernel, by decide +kernel, by decide +kernel, ?_⟩
  refine Disk.mem_keys.mpr ⟨by decide +kernel, _, _, _, rfl, rfl, by decide +kernel⟩

end Store

end DropLedger
