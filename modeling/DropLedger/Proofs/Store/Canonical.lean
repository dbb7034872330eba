import DropLedger.Proofs.Disk.Keys
import DropLedger.Proofs.Store.History

/-! Stores that only this program has written to. Below the root there are directories of players
and logs of keys, each log is in the form in which it is written, and the past of the store tells
which logs there are. -/
namespace DropLedger

/-- The directory of a player that may be selected. -/
def PlayerName (name : Bytes) : Prop :=
  ∃ player, Selection.Accepts player ∧ name = Utf8.encode (sanitize player.toList)

/-- The path to where names lead does not go below that place first. -/
def Aside (names : List Bytes) : Prop :=
  ∀ before, before <+: names → ∀ name rest, goal before ≠ goal names ++ name :: rest

section Aside

variable {d : Disk} {names : List Bytes} {base : Location}

/-- Where nothing is, no way leads out again. -/
theorem goal_stays_below {before after : List Bytes} {name : Bytes} {rest : Location}
    (vacant : ∀ name rest, d.found (base ++ name :: rest) = none)
    (settled : d.Settled (before ++ after)) (below : goal before = base ++ name :: rest) :
    ∃ name rest, goal (before ++ after) = base ++ name :: rest := by
  induction after generalizing before name rest with
  | nil => exact ⟨name, rest, by rw [List.append_nil, below]⟩
  | cons next after ih =>
    have more : before ++ next :: after = before ++ [next] ++ after := by simp
    rw [more] at settled ⊢
    by_cases stays : next = here
    · refine ih settled (?_ : _ = base ++ name :: rest)
      rw [goal_snoc, Location.follow, if_pos stays, below]
    · by_cases leaves : next = above
      · have dir := settled before after (by rw [leaves]; simp)
        rw [below, vacant] at dir
        cases dir
      · refine ih settled (?_ : _ = base ++ name :: (rest ++ [next]))
        rw [goal_snoc, follow_plain stays leaves, below]
        simp

theorem aside_of_vacant (settled : d.Settled names)
    (vacant : ∀ name rest, d.found (goal names ++ name :: rest) = none) : Aside names := by
  rintro before ⟨after, rfl⟩ name rest below
  obtain ⟨other, deeper, same⟩ := goal_stays_below vacant settled below
  simp at same

end Aside

namespace Store

def base (s : Store) : Location := goal (s.selection.root.route s.disk.start)

/-- A log that was written, where the log of its key belongs. -/
def IsLog (s : Store) (loc : Location) (content : Bytes) : Prop :=
  ∃ (owner : Selection) (key : String), owner.Accepted ∧ owner.root = s.selection.root ∧
    loc = owner.logAt s.disk.start key ∧ keyOf? key = some key ∧
    (owner.logPath key).Fits s.disk.start ∧ ∃ ks, content = Log.write ks

/-- Nothing is below the root but directories of players and logs. -/
structure Tidy (s : Store) : Prop where
  sound : s.Sound
  accepted : s.selection.Accepted
  aside : Aside (s.selection.root.route s.disk.start)
  dirs : ∀ name rest, s.disk.found (s.base ++ name :: rest) = some none →
    rest = [] ∧ PlayerName name
  files : ∀ name rest content, s.disk.found (s.base ++ name :: rest) = some (some content) →
    s.IsLog (s.base ++ name :: rest) content

variable {s t : Store} {key : String} {edits : List (Location × Option Bytes)}

theorem logAt_below (owner : Selection) (proper : owner.Proper)
    (root : owner.root = s.selection.root) (key : String) :
    ∃ name rest, owner.logAt s.disk.start key = s.base ++ name :: rest := by
  unfold Selection.logAt base
  rw [Selection.goal_directory proper, root, List.append_assoc]
  obtain ⟨name, rest, whole⟩ := List.exists_cons_of_ne_nil
    (List.append_ne_nil_of_right_ne_nil owner.branch (List.cons_ne_nil (logName key) []))
  exact ⟨name, rest, by rw [whole]⟩

theorem toward_player {selection : Selection} {start : Location} {name : Bytes} {rest : Location}
    (accepted : selection.Accepted) (aside : Aside (selection.root.route start))
    (made : Disk.Toward selection.directory start
      (goal (selection.root.route start) ++ name :: rest)) :
    rest = [] ∧ PlayerName name := by
  obtain ⟨names, part, same⟩ := made
  rw [Selection.route_directory accepted.proper] at part
  unfold Selection.branch at part
  cases chosen : selection.player with
  | none =>
    rw [chosen, List.append_nil] at part
    exact absurd same.symm (aside names part name rest)
  | some player =>
    rw [chosen] at part
    rcases List.prefix_concat_iff.mp part with rfl | part
    · have plain := Selection.player_plain (accepted.proper player chosen)
      rw [goal_snoc, follow_plain plain.here plain.above] at same
      obtain ⟨rfl, rfl⟩ := List.cons.inj (List.append_cancel_left same)
      exact ⟨rfl, player, accepted player chosen, rfl⟩
    · exact absurd same.symm (aside names part name rest)

theorem Tidy.changed (tidy : s.Tidy) (sound : t.Sound) (accepted : t.selection.Accepted)
    (root : t.selection.root = s.selection.root)
    (made : Disk.Changed (Disk.Toward t.selection.directory s.disk.start) edits s.disk t.disk)
    (puts : ∀ loc content, edits.lookup loc = some (some content) → s.IsLog loc content) :
    t.Tidy := by
  have start := made.start
  have same_base : t.base = s.base := by rw [base, base, root, start]
  have same_log : ∀ {loc content}, s.IsLog loc content → t.IsLog loc content := by
    unfold IsLog
    rw [root, start]
    exact fun h => h
  have aside : Aside (t.selection.root.route s.disk.start) := root ▸ tidy.aside
  refine ⟨sound, accepted, start ▸ aside, fun name rest dir => ?_, fun name rest content file => ?_⟩
  · rw [same_base] at dir
    cases edit : edits.lookup (s.base ++ name :: rest) with
    | some content =>
      rw [(made.edited _ _ edit).2] at dir
      cases content <;> cases dir
    | none =>
      rcases made.others _ edit with same | ⟨_, _, toward⟩
      · exact tidy.dirs name rest (same ▸ dir)
      · rw [base, ← root] at toward
        exact toward_player accepted aside toward
  · rw [same_base] at file ⊢
    cases edit : edits.lookup (s.base ++ name :: rest) with
    | some edited =>
      rw [(made.edited _ _ edit).2] at file
      cases edited with
      | none => cases file
      | some text =>
        cases file
        exact same_log (puts _ _ edit)
    | none =>
      rcases made.others _ edit with same | ⟨_, dir, _⟩
      · exact same_log (tidy.files name rest content (same ▸ file))
      · rw [dir] at file
        cases file

/-- The log of a key is in the form in which it is written, and if it is not there that form is
empty. -/
theorem Tidy.bytesOf_written (tidy : s.Tidy) (key : String) :
    ∃ ks, s.bytesOf key = Log.write ks := by
  unfold bytesOf
  cases held : s.disk.fileAt (s.logAt key) with
  | none => exact ⟨[], rfl⟩
  | some content =>
    obtain ⟨name, rest, below⟩ := logAt_below s.selection tidy.sound.proper rfl key
    have file := Disk.fileAt_eq_some.mp held
    rw [logAt, below] at file
    obtain ⟨_, _, _, _, _, _, _, ks, written⟩ := tidy.files name rest content file
    exact ⟨ks, written⟩

theorem Tidy.textOf_written (tidy : s.Tidy) (keyed : keyOf? key = some key) :
    ∃ ks, s.disk.textOf (s.selection.logPath key) = Log.write ks := by
  have plain := logName_plain (canonical_of_keyOf? keyed)
  have way := Selection.settled_directory tidy.sound.proper tidy.sound.settled
  by_cases fits : s.Fits key
  · obtain ⟨ks, written⟩ := tidy.bytesOf_written key
    refine ⟨ks, ?_⟩
    rw [← written, Selection.logPath, Disk.textOf_child plain way fits]
    rfl
  · exact ⟨[], Disk.textOf_unfit plain way fits⟩

theorem Tidy.older_none (tidy : s.Tidy) (keyed : keyOf? key = some key) : s.olderIn key = 0 := by
  obtain ⟨ks, written⟩ := tidy.textOf_written keyed
  rw [olderIn, written, Log.older_write]

theorem Tidy.puts_written {content : Bytes} {r : Request} (tidy : s.Tidy)
    (puts : s.Puts key content r) : keyOf? key = some key ∧ ∃ ks, content = Log.write ks := by
  have extended : ∀ ks, ∃ js, s.bytesOf key ++ freshLine (s.bytesOf key) (Log.write ks) =
      Log.write js := by
    intro ks
    obtain ⟨js, written⟩ := tidy.bytesOf_written key
    exact ⟨js ++ ks, by rw [written, Log.freshLine_write, Log.write_append]⟩
  cases r with
  | selectPlayer player => exact puts.elim
  | delete entity => exact puts.elim
  | append kill =>
    obtain ⟨keyed, rfl⟩ := puts
    exact ⟨keyOf?_key keyed, extended [kill]⟩
  | replace entity kills =>
    obtain ⟨keyed, rfl⟩ := puts
    exact ⟨keyOf?_key keyed, kills, rfl⟩
  | amendLast entity drops =>
    obtain ⟨keyed, _, puts⟩ := puts
    refine ⟨keyOf?_key keyed, ?_⟩
    split at puts
    · rw [puts]
      exact extended _
    · exact ⟨_, puts⟩
  | migrate entity =>
    obtain ⟨keyed, _, rfl⟩ := puts
    exact ⟨keyOf?_key keyed, _, rfl⟩

theorem Tidy.edited (tidy : s.Tidy) (edited : s.Edited t edits)
    (puts : ∀ loc content, edits.lookup loc = some (some content) → s.IsLog loc content) :
    t.Tidy := by
  obtain ⟨sound, root⟩ := tidy.sound.edited edited
  have made := edited.disk
  rw [← edited.selection] at made
  exact tidy.changed sound (edited.selection ▸ tidy.accepted) root made puts

theorem no_puts (loc : Location) {k : Location} {content : Bytes}
    (h : [(k, (none : Option Bytes))].lookup loc = some (some content)) : False := by
  by_cases hit : loc = k
  · subst hit
    rw [List.lookup_cons_self] at h
    cases h
  · rw [lookup_cons_ne _ _ hit] at h
    cases h

theorem perform_tidy (tidy : s.Tidy) {r : Request} {b : Bool} (h : s.perform r = (b, t)) :
    t.Tidy := by
  obtain ⟨sound, root⟩ := perform_sound tidy.sound h
  cases perform_cases h with
  | selected _ chosen now made =>
    rw [← now] at made
    exact tidy.changed sound (now ▸ (Selection.select_accepted chosen).1) root made nofun
  | failed kept =>
    rcases kept with same | ⟨_, spared⟩
    · exact tidy.edited same nofun
    · exact tidy.edited spared fun loc content edit => (no_puts loc edit).elim
  | idle _ kept => exact tidy.edited kept nofun
  | @put _ at_key _ _ puts fits spare edited =>
    obtain ⟨keyed, written⟩ := tidy.puts_written puts
    refine tidy.edited edited fun loc content edit => ?_
    by_cases hit : loc = s.logAt at_key
    · subst hit
      rw [List.lookup_cons_self] at edit
      cases edit
      exact ⟨s.selection, at_key, tidy.accepted, rfl, rfl, keyed, fits, written⟩
    · rw [lookup_cons_ne _ _ hit] at edit
      rcases spare with rfl | rfl
      · cases edit
      · exact (no_puts loc edit).elim
  | removed keyed edited => exact tidy.edited edited fun loc content edit => (no_puts loc edit).elim

/-- The log of a key is a file in the directory of a selection. -/
def Held (s : Store) (owner : Selection) (key : String) : Prop :=
  ∃ content, s.disk.fileAt (owner.logAt s.disk.start key) = some content

section Held

variable {owner : Selection}

theorem held_away {new : Location → Prop} (made : Disk.Changed new edits s.disk t.disk)
    (away : edits.lookup (owner.logAt s.disk.start key) = none) :
    t.Held owner key ↔ s.Held owner key := by
  unfold Held
  rw [made.start, made.fileAt_away away]

theorem held_edited {new : Location → Prop} {content : Option Bytes}
    (made : Disk.Changed new edits s.disk t.disk)
    (edit : edits.lookup (owner.logAt s.disk.start key) = some content) :
    t.Held owner key ↔ content ≠ none := by
  unfold Held
  rw [made.start, made.fileAt_edited edit]
  cases content <;> simp

theorem Tidy.read_held (tidy : s.Tidy) (h : s.Held s.selection key) :
    s.Fits key ∧ ∃ content, s.disk.read (s.selection.logPath key) = .ok content := by
  obtain ⟨content, held⟩ := h
  obtain ⟨name, rest, below⟩ := logAt_below s.selection tidy.sound.proper rfl key
  have file := Disk.fileAt_eq_some.mp held
  have at_log := file
  rw [below] at file
  obtain ⟨other, j, accepted, root, place, keyed, fits, _⟩ := tidy.files name rest content file
  rw [← below] at place
  obtain ⟨same, rfl⟩ :=
    (Selection.logAt_eq_iff tidy.accepted.proper accepted.proper root.symm).mp place
  have fits : s.Fits key := by
    unfold Fits Selection.logPath
    rw [same]
    exact fits
  have way := Selection.settled_directory tidy.sound.proper tidy.sound.settled
  have plain := logName_plain (canonical_of_keyOf? keyed)
  exact ⟨fits, content, (Disk.read_child plain way).mpr ⟨fits, at_log⟩⟩

theorem held_congr {other : Selection} (same : owner.directory = other.directory) :
    s.Held owner key ↔ s.Held other key := by
  unfold Held Selection.logAt
  rw [same]

/-- In a tidy store a request that puts a log in place is one that writes it: there is nothing to
migrate. -/
theorem Tidy.puts_writes {content : Bytes} {r : Request} (tidy : s.Tidy)
    (puts : s.Puts key content r) : r.Writes key := by
  cases r with
  | append kill => exact puts.1
  | replace entity kills => exact puts.1
  | amendLast entity drops => exact ⟨puts.1, puts.2.1⟩
  | migrate entity => exact absurd (tidy.older_none (keyOf?_key puts.1)) puts.2.1
  | _ => exact puts.elim

/-- Whether a log is to be there after a request: the request has written it, or it was there and
the request has not deleted it. -/
def HeldAfter (s : Store) (owner : Selection) (key : String) (r : Request) : Prop :=
  (r.Writes key ∧ s.Succeeds owner.directory r) ∨
    (s.Held owner key ∧ ¬(r.Deletes key ∧ s.Succeeds owner.directory r))

variable {r : Request} {b : Bool}

theorem held_same (kept : t.Held owner key ↔ s.Held owner key)
    (no_write : r.Writes key → ¬s.Succeeds owner.directory r)
    (no_delete : s.Held owner key → r.Deletes key → ¬s.Succeeds owner.directory r) :
    t.Held owner key ↔ s.HeldAfter owner key r := by
  rw [kept]
  constructor
  · exact fun held => .inr ⟨held, fun deleted => no_delete held deleted.1 deleted.2⟩
  · rintro (⟨writes, done⟩ | ⟨held, _⟩)
    · exact absurd done (no_write writes)
    · exact held

theorem failed_held (kept : s.Failed t) (failed : (s.perform r).1 = false) :
    t.Held owner key ↔ s.HeldAfter owner key r := by
  have undone : ¬s.Succeeds owner.directory r := by
    rintro ⟨_, done⟩
    rw [failed] at done
    cases done
  apply held_same
  · rcases kept with same | ⟨j, spared⟩
    · exact held_away same.disk rfl
    · exact held_away spared.disk (Selection.spare_away key j)
  · exact fun _ => undone
  · exact fun _ _ => undone

/-- Where there is nothing to delete, no log was there: one that is there can be read. -/
theorem idle_held (tidy : s.Tidy) (nothing : s.Idle r) (kept : s.Edited t []) :
    t.Held owner key ↔ s.HeldAfter owner key r := by
  apply held_same (held_away kept.disk rfl)
  · intro writes _
    cases r with
    | amendLast entity drops =>
      have none_given : drops.isEmpty = true := nothing
      rw [writes.2] at none_given
      cases none_given
    | migrate entity => exact writes
    | delete entity => exact writes
    | _ => exact nothing
  · intro held deletes done
    cases r with
    | delete entity =>
      obtain ⟨j, keyed, unread⟩ := nothing
      obtain rfl := Option.some.inj (keyed.symm.trans deletes)
      rw [held_congr done.1.symm] at held
      obtain ⟨_, content, readable⟩ := tidy.read_held held
      exact unread content readable
    | _ => exact deletes

section Elsewhere

variable (tidy : s.Tidy) (accepted : owner.Accepted) (root : owner.root = s.selection.root)
include tidy accepted root

theorem put_held {j : String} {content : Bytes} {others : List (Location × Option Bytes)}
    (puts : s.Puts j content r) (spare : others = [] ∨ others = [(s.spareAt j, none)])
    (edited : s.Edited t ((s.logAt j, some content) :: others)) (done : (s.perform r).1 = true) :
    t.Held owner key ↔ s.HeldAfter owner key r := by
  have writes := tidy.puts_writes puts
  have at_log : owner.logAt s.disk.start key = s.logAt j ↔
      owner.directory = s.selection.directory ∧ key = j :=
    Selection.logAt_eq_iff accepted.proper tidy.accepted.proper root
  by_cases hit : owner.logAt s.disk.start key = s.logAt j
  · obtain ⟨same, rfl⟩ := at_log.mp hit
    rw [held_edited edited.disk (by rw [hit, List.lookup_cons_self])]
    exact ⟨fun _ => .inl ⟨writes, same.symm, done⟩, fun _ => nofun⟩
  · apply held_same
    · apply held_away edited.disk
      rw [lookup_cons_ne _ _ hit]
      rcases spare with rfl | rfl
      · rfl
      · exact Selection.spare_away key j
    · intro own succeeds
      exact hit (at_log.mpr ⟨succeeds.1.symm, Request.writes_unique own writes⟩)
    · exact fun _ deletes => absurd deletes (Request.writes_not_deletes writes)

theorem removed_held {entity j : String} (keyed : keyOf? entity = some j)
    (edited : s.Edited t [(s.logAt j, none)])
    (done : (s.perform (.delete entity)).1 = true) :
    t.Held owner key ↔ s.HeldAfter owner key (.delete entity) := by
  have at_log : owner.logAt s.disk.start key = s.logAt j ↔
      owner.directory = s.selection.directory ∧ key = j :=
    Selection.logAt_eq_iff accepted.proper tidy.accepted.proper root
  by_cases hit : owner.logAt s.disk.start key = s.logAt j
  · obtain ⟨same, rfl⟩ := at_log.mp hit
    rw [held_edited edited.disk (by rw [hit, List.lookup_cons_self])]
    constructor
    · exact fun gone => absurd rfl gone
    · rintro (⟨writes, _⟩ | ⟨_, kept⟩)
      · exact writes.elim
      · exact absurd ⟨keyed, same.symm, done⟩ kept
  · apply held_same (held_away edited.disk (lookup_cons_ne _ _ hit))
    · exact fun writes => writes.elim
    · intro _ deletes succeeds
      have same_key : key = j := Option.some.inj (deletes.symm.trans keyed)
      exact hit (at_log.mpr ⟨succeeds.1.symm, same_key⟩)

/-- A log is there after a request if the request has written it, or if it was there and the request
has not deleted it. -/
theorem perform_held (h : s.perform r = (b, t)) : t.Held owner key ↔ s.HeldAfter owner key r := by
  have result : (s.perform r).1 = b := by rw [h]
  cases perform_cases h with
  | selected _ _ _ made =>
    exact held_same (held_away made rfl) (fun writes => writes.elim) fun _ deletes => deletes.elim
  | failed kept => exact failed_held kept result
  | idle nothing kept => exact idle_held tidy nothing kept
  | put puts _ spare edited => exact put_held tidy accepted root puts spare edited result
  | removed keyed edited => exact removed_held tidy accepted root keyed edited result

end Elsewhere

end Held

/-- Below a location there are only directories of players and logs in the form in which they are
written. -/
structure Pristine (d : Disk) (base : Location) : Prop where
  dirs : ∀ loc es, loc ≠ [] → d.look (base ++ loc) = some (.dir es) →
    ∃ name, loc = [name] ∧ PlayerName name
  files : ∀ loc content, loc ≠ [] → d.look (base ++ loc) = some (.file content) →
    ∃ branch key, loc = branch ++ [logName key] ∧
      (branch = [] ∨ ∃ name, branch = [name] ∧ PlayerName name) ∧ keyOf? key = some key ∧
      content = Log.write (Log.read content).kills ∧ (Log.read content).skipped = 0
  spares : ∀ loc name content, d.look (base ++ loc ++ [name]) = some (.file content) →
    ¬Utf8.ofString ".log.tmp" <:+ name

theorem branch_player {owner : Selection} (accepted : owner.Accepted) :
    owner.branch = [] ∨ ∃ name, owner.branch = [name] ∧ PlayerName name := by
  unfold Selection.branch
  cases chosen : owner.player with
  | none => exact .inl rfl
  | some player => exact .inr ⟨_, rfl, player, accepted player chosen, rfl⟩

theorem Tidy.log {loc : Location} {content : Bytes} (tidy : s.Tidy) (below : loc ≠ [])
    (file : s.disk.look (s.base ++ loc) = some (.file content)) :
    ∃ branch key, loc = branch ++ [logName key] ∧
      (branch = [] ∨ ∃ name, branch = [name] ∧ PlayerName name) ∧ keyOf? key = some key ∧
      ∃ ks, content = Log.write ks := by
  obtain ⟨name, rest, rfl⟩ := List.exists_cons_of_ne_nil below
  have shown : s.disk.found (s.base ++ name :: rest) = some (some content) := by
    rw [Disk.found, file]
    rfl
  obtain ⟨owner, key, accepted, root, place, keyed, _, written⟩ :=
    tidy.files name rest content shown
  unfold Selection.logAt base at place
  rw [Selection.goal_directory accepted.proper, root, List.append_assoc] at place
  exact ⟨owner.branch, key, List.append_cancel_left place, branch_player accepted, keyed, written⟩

theorem Tidy.pristine (tidy : s.Tidy) : Pristine s.disk s.base where
  dirs := by
    intro loc es below dir
    obtain ⟨name, rest, rfl⟩ := List.exists_cons_of_ne_nil below
    have shown : s.disk.found (s.base ++ name :: rest) = some none := by
      rw [Disk.found, dir]
      rfl
    obtain ⟨rfl, player⟩ := tidy.dirs name rest shown
    exact ⟨name, rfl, player⟩
  files := by
    intro loc content below file
    obtain ⟨branch, key, whole, owner, keyed, ks, rfl⟩ := tidy.log below file
    exact ⟨branch, key, whole, owner, keyed, by rw [Log.kills_write], (Log.read_write ks).2⟩
  spares := by
    intro loc name content file
    rw [List.append_assoc] at file
    have below : loc ++ [name] ≠ [] := by simp
    obtain ⟨branch, key, whole, _⟩ := tidy.log below file
    rw [(List.append_singleton_inj.mp whole).2]
    exact logName_no_spare key

theorem Tidy.migrated (tidy : s.Tidy) (entity : String) : (s.needsMigration entity).1 = false := by
  unfold needsMigration
  cases keyed : keyOf? entity with
  | none =>
    rw [readLog_unkeyed keyed]
  | some key =>
    cases shown : s.readLog entity with
    | mk r u =>
      cases r with
      | error fault => rfl
      | ok log =>
        dsimp only
        rw [(readLog_ok keyed shown).2, tidy.older_none (keyOf?_key keyed)]
        rfl

section Start

variable (settled : s.disk.Settled (s.selection.root.route s.disk.start))
  (accepted : s.selection.Accepted)
  (empty : ∀ name rest, s.disk.look (s.base ++ name :: rest) = none)
include settled accepted empty

theorem tidy_of_empty : s.Tidy := by
  have vacant : ∀ name rest, s.disk.found (s.base ++ name :: rest) = none := by
    intro name rest
    rw [Disk.found, empty]
    rfl
  refine ⟨⟨accepted.proper, settled⟩, accepted, aside_of_vacant settled vacant, ?_, ?_⟩
  · intro name rest dir
    rw [vacant] at dir
    cases dir
  · intro name rest content file
    rw [vacant] at file
    cases file

theorem run_tidy (rs : List Request) :
    (s.run rs).Tidy ∧ (s.run rs).selection.root = s.selection.root ∧
      (s.run rs).disk.start = s.disk.start ∧
      ∀ owner : Selection, owner.Accepted → owner.root = s.selection.root → ∀ key,
        (s.run rs).Held owner key ↔ s.WrittenSince rs owner.directory key := by
  induction rs using List.reverseRecOn with
  | nil =>
    have tidy := tidy_of_empty settled accepted empty
    refine ⟨tidy, rfl, rfl, fun owner chosen root key => ?_⟩
    constructor
    · rintro ⟨content, held⟩
      obtain ⟨name, rest, below⟩ := logAt_below owner chosen.proper root key
      have file := Disk.fileAt_eq_some.mp held
      change s.disk.found (owner.logAt s.disk.start key) = _ at file
      rw [below, Disk.found, empty] at file
      cases file
    · exact fun written => absurd written writtenSince_nil
  | append_singleton rs r ih =>
    obtain ⟨tidy, root, start, held⟩ := ih
    rw [run_snoc]
    have step : (s.run rs).perform r = (((s.run rs).perform r).1, ((s.run rs).perform r).2) := rfl
    obtain ⟨_, same⟩ := perform_sound tidy.sound step
    refine ⟨perform_tidy tidy step, same.trans root, (perform_start step).trans start,
      fun owner chosen inside key => ?_⟩
    rw [perform_held tidy chosen (inside.trans root.symm) step, HeldAfter, writtenSince_snoc,
      held owner chosen inside key]

end Start

/-- From an empty root that has a name, requests that succeed or fail lead to nothing but
directories of players and logs as they are written. Nothing is left to migrate, and those keys are
listed whose log was written since it was last deleted. The root has to be where its path leads: one
that is there is, and so is one whose path leads out of no directory. -/
theorem run_from_empty (settled : s.disk.Settled (s.selection.root.route s.disk.start))
    (accepted : s.selection.Accepted)
    (empty : ∀ name rest, s.disk.look (s.base ++ name :: rest) = none)
    (named : s.selection.root.raw ≠ []) (rs : List Request) :
    Pristine (s.run rs).disk s.base ∧ (∀ entity, ((s.run rs).needsMigration entity).1 = false) ∧
      ∀ key, key ∈ (s.run rs).keys.1 ↔
        s.WrittenSince rs (s.run rs).selection.directory key := by
  obtain ⟨tidy, root, start, held⟩ := run_tidy settled accepted empty rs
  have same_base : (s.run rs).base = s.base := by rw [base, base, root, start]
  have current := held (s.run rs).selection tidy.accepted root
  refine ⟨same_base ▸ tidy.pristine, tidy.migrated, fun key => ?_⟩
  rw [← current]
  constructor
  · intro listed
    obtain ⟨_, content, shown⟩ := Disk.file_of_key listed
    exact ⟨content, Disk.fileAt_eq_some.mpr shown⟩
  · intro there
    obtain ⟨fits, _⟩ := tidy.read_held there
    obtain ⟨content, file⟩ := there
    obtain ⟨_, w, _, _, writes, _⟩ := (current key).mp ⟨content, file⟩
    exact Disk.key_of_file
      (Selection.directory_ne_nil tidy.sound.proper (by rw [root]; exact named))
      (Selection.settled_directory tidy.sound.proper tidy.sound.settled)
      (Request.writes_keyed writes) fits (Disk.fileAt_eq_some.mp file)

def emptyRoot : Store where
  disk := ⟨.dir [([0x78], .dir [])], [], []⟩
  selection := ⟨⟨[0x78]⟩, none⟩

theorem emptyRoot_appended :
    Pristine (emptyRoot.run [.append (Kill.ofEvent "AB" unknown [])]).disk emptyRoot.base ∧
      "ab" ∈ (emptyRoot.run [.append (Kill.ofEvent "AB" unknown [])]).keys.1 := by
  have settled := settled_of_isDir (d := emptyRoot.disk) (p := emptyRoot.selection.root) (by decide)
  obtain ⟨pristine, _, listed⟩ := run_from_empty (s := emptyRoot) settled nofun (fun _ _ => rfl)
    (by decide) [.append (Kill.ofEvent "AB" unknown [])]
  refine ⟨pristine, (listed "ab").mpr ?_⟩
  refine ⟨[], _, [], rfl, ?_, ⟨by decide +kernel, by decide +kernel⟩, ?_⟩
  · exact (by decide +kernel : keyOf? "AB" = some "ab")
  · intro between q rest split
    cases between <;> cases split

/-- The root is an empty directory, but its path leads out of two that are missing. -/
def outward : Store where
  disk := ⟨.dir [], [], []⟩
  selection := ⟨⟨[0x78, slash, 0x79, slash, 0x2E, 0x2E, slash, 0x2E, 0x2E]⟩, none⟩

/-- Both of them are made on the way to a log. They are then below the root, one in the other. -/
theorem outward_cluttered :
    outward.selection.root.raw ≠ [] ∧ outward.selection.Accepted ∧
      (∀ name rest, outward.disk.look (outward.base ++ name :: rest) = none) ∧
      ¬Pristine (outward.run [.append (Kill.ofEvent "AB" unknown [])]).disk outward.base := by
  refine ⟨by decide, nofun, fun _ _ => rfl, fun pristine => ?_⟩
  have made : (outward.run [.append (Kill.ofEvent "AB" unknown [])]).disk.found
      (outward.base ++ [[0x78], [0x79]]) = some none := by
    decide +kernel
  obtain ⟨entries, inner⟩ := Disk.look_of_dir made
  obtain ⟨name, whole, _⟩ := pristine.dirs _ entries (List.cons_ne_nil _ _) inner
  cases whole

end Store

end DropLedger
