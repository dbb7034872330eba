import DropLedger.Proofs.Store.Run

/-! The store as a ledger: the kills of each key in each directory. A request that succeeds changes
one entry of the ledger at most, whatever the files of the disk hold. -/
namespace DropLedger

/-- The kills of each key in the directory of each selection. -/
abbrev Ledger := Selection → String → List Kill

namespace Ledger

/-- Changes the kills of an entity in the directory of a selection. -/
def change (l : Ledger) (current : Selection) (entity : String) (f : List Kill → List Kill) :
    Ledger :=
  fun selection key =>
    if selection.directory = current.directory ∧ keyOf? entity = some key then f (l selection key)
    else l selection key

theorem change_of_fixed {l : Ledger} {current selection : Selection} {entity key : String}
    {f : List Kill → List Kill}
    (fixed : selection.directory = current.directory → keyOf? entity = some key →
      f (l selection key) = l selection key) :
    l.change current entity f selection key = l selection key := by
  unfold change
  split
  · rename_i hit
    exact fixed hit.1 hit.2
  · rfl

end Ledger

/-- What a request is to do while a directory is selected. -/
def Request.act (current : Selection) (l : Ledger) : Request → Ledger
  | .selectPlayer _ => l
  | .append kill => l.change current kill.name (· ++ [kill])
  | .replace entity kills => l.change current entity fun _ => kills
  | .amendLast entity drops =>
    if drops.isEmpty then l else l.change current entity (Store.withDrops entity drops)
  | .delete entity => l.change current entity fun _ => []
  | .migrate _ => l

/-- What is selected after a request. -/
def Request.selects (before after : Selection) : Request → Prop
  | .selectPlayer player => before.select player = .ok after
  | _ => after = before

namespace Store

/-- The kills that are loaded for a key while a directory is selected. -/
def view (s : Store) : Ledger := fun selection key => ({ s with selection }.load key).1

variable {s t : Store} {selection : Selection} {key entity : String}
  {edits : List (Location × Option Bytes)}

theorem view_eq (keyed : keyOf? key = some key) :
    s.view selection key = (Log.read (s.disk.textOf (selection.logPath key))).kills :=
  load_recorded (s := { s with selection }) keyed

section View

variable (proper : selection.Proper)
  (settled : s.disk.Settled (selection.root.route s.disk.start)) (keyed : keyOf? key = some key)
include proper settled keyed

theorem view_away {new : Location → Prop} (h : Disk.Changed new edits s.disk t.disk)
    (away : edits.lookup (selection.logAt s.disk.start key) = none) :
    t.view selection key = s.view selection key := by
  have plain := logName_plain (canonical_of_keyOf? keyed)
  rw [view_eq keyed, view_eq keyed, Selection.logPath,
    h.textOf_away plain (Selection.settled_directory proper settled) away]

theorem view_edited {new : Location → Prop} {content : Option Bytes}
    (h : Disk.Changed new edits s.disk t.disk)
    (edit : edits.lookup (selection.logAt s.disk.start key) = some content)
    (fits : content ≠ none → (selection.logPath key).Fits s.disk.start) :
    t.view selection key = (Log.read (content.getD [])).kills := by
  have plain := logName_plain (canonical_of_keyOf? keyed)
  rw [view_eq keyed, Selection.logPath,
    h.textOf_edited plain (Selection.settled_directory proper settled) edit fits]

end View

/-- An edit of the log of an entity changes the ledger there. The spare files, or whatever else is
edited, are in the place of no log. -/
theorem view_change {content : Option Bytes} {f : List Kill → List Kill} (sound : s.Sound)
    (keyed : keyOf? entity = some key) (edited : s.Edited t ((s.logAt key, content) :: edits))
    (others : ∀ (other : Selection) j, edits.lookup (other.logAt s.disk.start j) = none)
    (fits : content ≠ none → s.Fits key)
    (value : (Log.read (content.getD [])).kills = f (s.recorded key))
    (proper : selection.Proper) (root : selection.root = s.selection.root) {j : String}
    (keyed' : keyOf? j = some j) :
    t.view selection j = s.view.change s.selection entity f selection j := by
  have settled : s.disk.Settled (selection.root.route s.disk.start) := root ▸ sound.settled
  have at_log : selection.logAt s.disk.start j = s.logAt key ↔
      selection.directory = s.selection.directory ∧ j = key :=
    Selection.logAt_eq_iff proper sound.proper root
  unfold Ledger.change
  split
  · rename_i hit
    obtain ⟨same, this_key⟩ := hit
    rw [keyed] at this_key
    cases this_key
    have place := at_log.mpr ⟨same, rfl⟩
    have path : selection.logPath key = s.selection.logPath key := by
      rw [Selection.logPath, same, Selection.logPath]
    rw [view_edited proper settled keyed' edited.disk (by rw [place, List.lookup_cons_self])
      (by rw [path]; exact fits), value, view_eq keyed', path]
    rfl
  · rename_i miss
    have elsewhere : selection.logAt s.disk.start j ≠ s.logAt key := by
      intro place
      obtain ⟨same, rfl⟩ := at_log.mp place
      exact miss ⟨same, keyed⟩
    refine view_away proper settled keyed' edited.disk ?_
    rw [lookup_cons_ne _ _ elsewhere]
    exact others selection j

/-- The bytes that can be read of a log are those of its file, if its directory is where its path
leads. -/
theorem textOf_bytesOf (keyed : keyOf? entity = some key) (fits : s.Fits key)
    (way : s.disk.Settled (s.selection.directory.route s.disk.start)) :
    s.disk.textOf (s.selection.logPath key) = s.bytesOf key :=
  Disk.textOf_child (logName_plain (canonical_of_keyOf? keyed)) way fits

theorem recorded_bytes (sound : s.Sound) (keyed : keyOf? entity = some key) (fits : s.Fits key) :
    s.recorded key = (Log.read (s.bytesOf key)).kills := by
  have way := Selection.settled_directory sound.proper sound.settled
  rw [recorded, textOf_bytesOf keyed fits way]

theorem recorded_unread (unread : ∀ content, s.disk.read (s.selection.logPath key) ≠ .ok content) :
    s.recorded key = [] := by
  unfold recorded Disk.textOf
  split
  · rename_i content readable
    exact absurd readable (unread content)
  · rfl

theorem view_recorded (keyed : keyOf? key = some key)
    (same : selection.directory = s.selection.directory) :
    s.view selection key = s.recorded key := by
  rw [view_eq keyed, Selection.logPath, same]
  rfl

theorem perform_selects {r : Request} (done : s.perform r = (true, t)) :
    r.selects s.selection t.selection := by
  cases perform_cases done with
  | selected _ chosen now made =>
    rw [now]
    exact chosen
  | idle nothing kept =>
    cases r with
    | selectPlayer player => exact nothing.elim
    | _ => exact kept.selection
  | put puts _ _ edited =>
    cases r with
    | selectPlayer player => exact puts.elim
    | _ => exact edited.selection
  | removed _ edited => exact edited.selection

theorem puts_act {content : Bytes} {r : Request} (sound : s.Sound) (fits : s.Fits key)
    (puts : s.Puts key content r) :
    ∃ entity f, keyOf? entity = some key ∧
      (∀ l : Ledger, r.act s.selection l = l.change s.selection entity f) ∧
      (Log.read content).kills = f (s.recorded key) := by
  cases r with
  | selectPlayer player => exact puts.elim
  | delete entity => exact puts.elim
  | append kill =>
    obtain ⟨keyed, rfl⟩ := puts
    refine ⟨kill.name, (· ++ [kill]), keyed, fun _ => rfl, ?_⟩
    rw [recorded_bytes sound keyed fits]
    exact Log.kills_freshLine _ _
  | replace entity kills =>
    obtain ⟨keyed, rfl⟩ := puts
    exact ⟨entity, fun _ => kills, keyed, fun _ => rfl, Log.kills_write kills⟩
  | amendLast entity drops =>
    obtain ⟨keyed, given, puts⟩ := puts
    refine ⟨entity, withDrops entity drops, keyed, fun l => ?_, ?_⟩
    · rw [Request.act, given, if_neg Bool.false_ne_true]
    · split at puts
      · rename_i empty
        rw [puts, Log.kills_freshLine, ← recorded_bytes sound keyed fits, empty, List.nil_append]
      · rw [puts, Log.kills_write]
  | migrate entity =>
    obtain ⟨keyed, _, rfl⟩ := puts
    refine ⟨entity, id, keyed, fun l => ?_, Log.kills_write _⟩
    funext selection j
    exact (Ledger.change_of_fixed fun _ _ => rfl).symm

/-- A request that succeeds does to the ledger what it is to do. -/
theorem perform_acts (sound : s.Sound) {r : Request} (done : s.perform r = (true, t))
    (proper : selection.Proper) (root : selection.root = s.selection.root)
    (keyed : keyOf? key = some key) :
    t.view selection key = r.act s.selection s.view selection key := by
  have settled : s.disk.Settled (selection.root.route s.disk.start) := root ▸ sound.settled
  have same : ∀ {new}, Disk.Changed new [] s.disk t.disk →
      t.view selection key = s.view selection key :=
    fun h => view_away proper settled keyed h rfl
  cases perform_cases done with
  | selected _ chosen now made => exact same made
  | idle nothing kept =>
    refine (same kept.disk).trans ?_
    cases r with
    | amendLast entity drops =>
      have none_given : drops.isEmpty = true := nothing
      rw [Request.act, if_pos none_given]
    | delete entity =>
      obtain ⟨at_key, keyed', unread⟩ := nothing
      refine (Ledger.change_of_fixed (f := fun _ => []) fun here this_key => ?_).symm
      rw [keyed'] at this_key
      cases this_key
      rw [view_recorded keyed here, recorded_unread unread]
    | migrate entity => rfl
    | _ => exact nothing.elim
  | put puts fits spare edited =>
    obtain ⟨entity, f, keyed', acts, value⟩ := puts_act sound fits puts
    rw [acts]
    refine view_change sound keyed' edited (fun other j => ?_) (fun _ => fits) value proper root
      keyed
    rcases spare with rfl | rfl
    · rfl
    · exact Selection.spare_away j _
  | removed keyed' edited =>
    exact view_change (f := fun _ => []) sound keyed' edited (fun _ _ => rfl)
      (fun some => absurd rfl some) rfl proper root keyed

/-- After any requests from any disk, a request that succeeds changes the ledger as it is to do, and
the selection only if it selects. The root has to be where its path leads: one that is there is, and
so is one whose path leads out of no directory. -/
theorem store_refines_ledger (proper : s.selection.Proper)
    (settled : s.disk.Settled (s.selection.root.route s.disk.start)) (rs : List Request)
    (r : Request) (done : ((s.run rs).perform r).1 = true) :
    r.selects (s.run rs).selection ((s.run rs).perform r).2.selection ∧
      ∀ selection : Selection, selection.Proper → selection.root = s.selection.root →
        ∀ key, keyOf? key = some key →
          ((s.run rs).perform r).2.view selection key =
            r.act (s.run rs).selection (s.run rs).view selection key := by
  obtain ⟨sound, root⟩ := run_sound ⟨proper, settled⟩ rs
  have step : (s.run rs).perform r = (true, ((s.run rs).perform r).2) := by
    rw [← done]
  refine ⟨perform_selects step, fun selection chosen same key keyed => ?_⟩
  exact perform_acts sound step chosen (same.trans root.symm) keyed

def cutShort : Store where
  disk := ⟨.dir [([0x78], .dir [(logName "ab", .file [0x7B, 0x22])])], [], []⟩
  selection := ⟨⟨[0x78]⟩, none⟩

def bone : Drop := ⟨"Bone", unknown, ⟨1, by decide, by decide⟩, Signed64.zero⟩

theorem cutShort_amended :
    ((cutShort.run [.append (Kill.ofEvent "AB" unknown [])]).perform
      (.amendLast "ab " [bone])).2.view cutShort.selection "ab" = [Kill.ofEvent "AB" unknown [bone]] := by
  have settled := settled_of_isDir (d := cutShort.disk) (p := cutShort.selection.root) (by decide)
  have acts := store_refines_ledger (s := cutShort) nofun settled
    [.append (Kill.ofEvent "AB" unknown [])] (.amendLast "ab " [bone]) (by decide +kernel)
  rw [acts.2 cutShort.selection nofun rfl "ab" (by decide +kernel)]
  decide +kernel

/-- The root is reached through a directory that is missing. There is a log in it, and a file with a
name that a player may have. -/
def detour : Store where
  disk := ⟨.dir [([0x79], .dir [(logName "a", .file (Log.write [Kill.ofEvent "A" unknown []])),
    ([0x70], .file [])])], [], []⟩
  selection := ⟨⟨[0x78, slash, 0x2E, 0x2E, slash, 0x79]⟩, none⟩

/-- The missing directory is made on the way to the log of one key, and from then on the log of
another is found as well, which the ledger says stays as it was. -/
theorem detour_unledgered :
    (detour.perform (.append (Kill.ofEvent "B" unknown []))).1 = true ∧
      keyOf? "a" = some "a" ∧
      (Request.append (Kill.ofEvent "B" unknown [])).act detour.selection detour.view
        detour.selection "a" = [] ∧
      (detour.perform (.append (Kill.ofEvent "B" unknown []))).2.view detour.selection "a" =
        [Kill.ofEvent "A" unknown []] := by
  exact ⟨by decide +kernel, by decide +kernel, by decide +kernel, by decide +kernel⟩

end Store

end DropLedger
