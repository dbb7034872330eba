import DropLedger.Proofs.Component
import DropLedger.Proofs.Store.Twin

/-! What an open store can get at. Its files stand in the root or in a directory of the root, by
whatever names players and entities are given. -/
namespace DropLedger

namespace Selection

/-- No spare file is where the log of an entity is, by whatever paths the two are named. -/
theorem spare_no_log {s t : Selection} {start : Location} {entity other key : String} {path : Path}
    (keyed : keyOf? entity = some key) (file : t.entityFile other = .ok path) :
    goal (path.route start) ≠ goal ((s.sparePath key).route start) := by
  unfold entityFile at file
  cases keyed' : keyOf other with
  | error fault =>
    rw [keyed'] at file
    cases file
  | ok j =>
    rw [keyed'] at file
    cases file
    have plain := logName_plain (canonical_of_keyOf? (keyOf_eq_ok.mp keyed'))
    have spared := spareName_plain (canonical_of_keyOf? keyed)
    unfold logPath sparePath
    rw [Path.goal_child plain, Path.goal_child spared]
    exact logAt_ne_spareAt j key

end Selection

namespace Store

/-- The store has come from one that was opened at the root, by requests of any kind. Readings may
have left notices in between. -/
inductive Reached (root : Path) : Store → Prop where
  | opened (disk : Disk) (notices : List Notice) : Reached root ⟨disk, ⟨root, none⟩, notices⟩
  | performed {s : Store} (before : Reached root s) (r : Request) : Reached root (s.perform r).2
  | noted {s : Store} (before : Reached root s) (notices : List Notice) :
      Reached root { s with notices }

variable {root : Path} {s t : Store}

theorem Reached.selection (reached : Reached root s) :
    s.selection.Proper ∧ s.selection.root = root := by
  induction reached with
  | opened disk notices => exact ⟨nofun, rfl⟩
  | performed _ r ih =>
    obtain ⟨proper, same⟩ := perform_selection (r := r) ih.1 rfl
    exact ⟨proper, same.trans ih.2⟩
  | noted _ _ ih => exact ih

theorem Reached.within_directory (reached : Reached root s) (name : Bytes) :
    Within root s.disk.start (goal (s.selection.directory.route s.disk.start) ++ [name]) := by
  obtain ⟨proper, rfl⟩ := reached.selection
  exact within_directory proper name

theorem Reached.logs (reached : Reached root s) (key : String) :
    Within root s.disk.start (s.logAt key) := reached.within_directory _

theorem Reached.perform_within (reached : Reached root s) (r : Request) :
    Disk.Wrote (Within root s.disk.start) s.disk (s.perform r).2.disk := by
  obtain ⟨proper, rfl⟩ := reached.selection
  exact (perform_wrote s r).mono fun _ => within_fileOf proper

theorem Reached.run_within (reached : Reached root s) (rs : List Request) :
    Disk.Wrote (Within root s.disk.start) s.disk (s.run rs).disk := by
  induction rs generalizing s with
  | nil => exact .refl
  | cons r rs ih =>
    have first := reached.perform_within r
    have others := ih (reached.performed r)
    rw [first.start] at others
    exact first.trans others

theorem Reached.run_outside (reached : Reached root s) (rs : List Request) {loc : Location}
    (outside : ¬Within root s.disk.start loc) :
    (s.run rs).disk.fileAt loc = s.disk.fileAt loc := by
  induction rs generalizing s with
  | nil => rfl
  | cons r rs ih =>
    have other : ¬s.OwnFile loc := by
      rintro ⟨key, rfl | rfl⟩
      · exact outside (reached.within_directory _)
      · exact outside (reached.within_directory _)
    have start := (reached.perform_within r).start
    rw [← start] at outside
    exact (ih (reached.performed r) outside).trans (perform_fileAt rfl other)

theorem Reached.run_twin (reached : Reached root s) (twin : Twin (Within root s.disk.start) s t)
    (rs : List Request) : Twin (Within root s.disk.start) (s.run rs) (t.run rs) := by
  induction rs generalizing s t with
  | nil => exact twin
  | cons r rs ih =>
    have next := (perform_matched reached.logs twin r).2
    -- The root stays where it is, so the same files are within after the request.
    have start := (reached.perform_within r).start
    rw [← start] at next ⊢
    exact ih (reached.performed r) next

/-- The directory of a store is its root or has a component as its name there, and so has every log
in it; only what is dots throughout is refused, and without any effect. What is written are the log
of an entity and the spare file beside it, which is the log of none. No request writes a file that
is not in the root or in a directory of it, and whatever such files hold, requests and readings come
to the same. -/
theorem paths_stay_in_root (reached : Reached root s) :
    (s.selection.directory = root ∨
        ∃ name, Component name ∧ s.selection.directory = root.child (Utf8.ofString name)) ∧
      (∀ player, ((∃ fault, s.selection.select player = .error fault) ↔
          ∃ given, player = some given ∧ Text.trimChars given.toList ≠ [] ∧
            ∀ c ∈ Text.trimChars given.toList, c = '.') ∧
        ∀ fault, s.selection.select player = .error fault →
          (s.selectPlayer player).1 = false ∧
            (s.selectPlayer player).2.selection = s.selection ∧
            (s.selectPlayer player).2.disk = s.disk) ∧
      (∀ entity,
        ((∀ c ∈ Text.trimChars entity.toList, c = '.') ∧
            s.selection.entityFile entity = .error (.badEntity entity)) ∨
          (∃ c ∈ Text.trimChars entity.toList, c ≠ '.') ∧
            ∃ key, keyOf? entity = some key ∧ Component key ∧
              s.selection.entityFile entity =
                .ok (s.selection.directory.child (Utf8.ofString (key ++ ".log"))) ∧
              s.selection.sparePath key =
                s.selection.directory.child (Utf8.ofString (key ++ ".log.tmp")) ∧
              ∀ (t : Selection) (start : Location) (other : String) (path : Path),
                t.entityFile other = .ok path →
                  goal (path.route start) ≠ goal ((s.selection.sparePath key).route start)) ∧
      (∀ r, Disk.Wrote (s.FileOf r) s.disk (s.perform r).2.disk) ∧
      (∀ rs, Disk.Wrote (Within root s.disk.start) s.disk (s.run rs).disk ∧
        ∀ loc, ¬Within root s.disk.start loc →
          (s.run rs).disk.fileAt loc = s.disk.fileAt loc) ∧
      ∀ t, Twin (Within root s.disk.start) s t →
        (∀ rs, Twin (Within root s.disk.start) (s.run rs) (t.run rs)) ∧
          (∀ r, Matched (Within root s.disk.start) (s.perform r) (t.perform r)) ∧
          (∀ entity, Matched (Within root s.disk.start) (s.load entity) (t.load entity)) ∧
          (∀ entity, Matched (Within root s.disk.start) (s.needsMigration entity)
            (t.needsMigration entity)) ∧
          (∀ directory, Matched (Within root s.disk.start) (s.keysIn directory)
            (t.keysIn directory)) ∧
          Matched (Within root s.disk.start) s.loadAll t.loadAll := by
  obtain ⟨proper, same⟩ := reached.selection
  refine ⟨?_, ?_, ?_, perform_wrote s, ?_, ?_⟩
  · rw [← same]
    exact Selection.directory_contained proper
  · intro player
    refine ⟨Selection.select_refused, ?_⟩
    intro fault refused
    unfold selectPlayer
    rw [refused]
    exact ⟨rfl, rfl, rfl⟩
  · intro entity
    cases keyed : keyOf? entity with
    | none =>
      refine .inl ⟨keyOf?_eq_none.mp keyed, ?_⟩
      unfold Selection.entityFile keyOf
      rw [keyed]
      rfl
    | some key =>
      have seen : ∃ c ∈ Text.trimChars entity.toList, c ≠ '.' := by
        by_contra none
        push Not at none
        rw [keyOf?_eq_none.mpr none] at keyed
        cases keyed
      refine .inr ⟨seen, key, rfl, component_of_key keyed, ?_, ?_, ?_⟩
      · rw [Selection.entityFile, keyOf_eq_ok.mpr keyed, ← logName_ofString]
        rfl
      · rw [Selection.sparePath, spareName_encode (canonical_of_keyOf? keyed).named, Utf8.ofString,
          String.toList_append]
        rfl
      · intro t start other path
        exact Selection.spare_no_log keyed
  · intro rs
    exact ⟨reached.run_within rs, fun _ => reached.run_outside rs⟩
  · intro t twin
    exact ⟨reached.run_twin twin, perform_matched reached.logs twin,
      load_matched reached.logs twin, needsMigration_matched reached.logs twin,
      keysIn_matched twin, loadAll_matched reached.logs twin⟩

/-- A root, and beside it a file that is not in it. -/
def besideSecret (secret : Bytes) : Store where
  disk := ⟨.dir [([0x78], .dir []), ([0x73], .file secret)], [], []⟩
  selection := ⟨⟨[0x78]⟩, none⟩

theorem besideSecret_twin (secret other : Bytes) :
    Twin (Within ⟨[0x78]⟩ []) (besideSecret secret) (besideSecret other) := by
  refine ⟨(besideSecret other).disk, ⟨rfl, ?_⟩, rfl⟩
  have there : ∀ content, (besideSecret content).disk.found [[0x73]] = some (some content) := by
    intro content
    rfl
  intro loc
  by_cases hit : loc = [[0x73]]
  · refine .inr ⟨?_, secret, other, hit ▸ there secret, hit ▸ there other⟩
    rintro ⟨names, whole, _⟩
    rw [hit] at whole
    exact absurd (List.cons.inj whole).1 (by decide)
  · left
    unfold Disk.found Disk.look
    cases loc with
    | nil => rfl
    | cons name rest =>
      by_cases root : name = [0x78]
      · rw [root]
        rfl
      · by_cases file : name = [0x73]
        · cases rest with
          | nil => exact absurd (by rw [file]) hit
          | cons _ _ =>
            rw [file]
            rfl
        · have free : ∀ secret : Bytes,
              ([([0x78], .dir []), ([0x73], .file secret)] : List (Bytes × Node)).lookup name =
                none := by
            intro secret
            rw [lookup_cons_ne _ _ root, lookup_cons_ne _ _ file]
            rfl
          simp [besideSecret, Node.at?, free]

theorem besideSecret_contained :
    ((besideSecret [0x61]).perform (.selectPlayer (some " .. "))).1 = false ∧
      (besideSecret [0x61]).selection.entityFile "../S" = .ok ⟨Utf8.ofString "x/.._s.log"⟩ ∧
      ((besideSecret [0x62]).load "../S").1 = ((besideSecret [0x61]).load "../S").1 := by
  have reached : Reached ⟨[0x78]⟩ (besideSecret [0x61]) := .opened _ _
  obtain ⟨_, refused, named, _, _, read⟩ := paths_stay_in_root reached
  refine ⟨?_, ?_, ?_⟩
  · exact ((refused (some " .. ")).2 (.badPlayer "..") (by decide +kernel)).1
  · rcases named "../S" with ⟨dots, _⟩ | ⟨_, key, keyed, _, file, _⟩
    · exact absurd (isDots_iff.mpr dots) (by decide +kernel)
    · have same : keyOf? "../S" = some ".._s" := by decide +kernel
      rw [same] at keyed
      cases keyed
      rw [file]
      decide +kernel
  · exact ((read _ (besideSecret_twin [0x61] [0x62])).2.2.1 "../S").1

end Store

end DropLedger
