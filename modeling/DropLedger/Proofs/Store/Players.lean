import DropLedger.Proofs.Disk.Blocked
import DropLedger.Proofs.Store.Footprint

/-! Players apart. What is requested while one player is selected shows to another only if both
names come to the same directory. -/
namespace DropLedger

namespace Selection

/-- The name of the directory of a player, none for the directory that all share. -/
def folder (player : Option String) : Option (List Char) :=
  (named player).map fun name => sanitize name.toList

variable {s one other : Selection} {first second : Option String}

theorem select_eq (chosen : s.select first = .ok one) : one = ⟨s.root, named first⟩ := by
  unfold select at chosen
  split at chosen
  · rename_i blank
    cases chosen
    rw [blank]
  · rename_i name given
    split at chosen
    · cases chosen
    · cases chosen
      rw [given]

theorem select_root (chosen : s.select first = .ok one) : one.root = s.root := by
  rw [select_eq chosen]

theorem select_congr {t : Selection} (root : t.root = s.root) : t.select first = s.select first := by
  simp only [select, root]

theorem branch_folder (chosen : s.select first = .ok one) :
    one.branch = ((folder first).map Utf8.encode).toList := by
  rw [select_eq chosen]
  unfold branch folder
  cases named first <;> rfl

theorem same_directory (chosen : s.select first = .ok one) (chosen' : s.select second = .ok other) :
    one.directory = other.directory ↔ folder first = folder second := by
  have root : one.root = other.root := (select_root chosen).trans (select_root chosen').symm
  rw [directory_eq_iff (select_accepted chosen).1.proper (select_accepted chosen').1.proper root,
    branch_folder chosen, branch_folder chosen']
  have encoded (x y : List Char) : Utf8.encode x = Utf8.encode y ↔ x = y :=
    ⟨Utf8.encode_injective, congrArg _⟩
  cases folder first <;> cases folder second <;> simp [encoded]

theorem root_begins (s : Selection) : s.root.raw <+: s.directory.raw := by
  unfold directory
  cases s.player with
  | none => exact List.prefix_rfl
  | some player => exact Path.child_begins _ _

theorem directory_ends (proper : s.Proper) (player : s.player ≠ none) :
    Path.dropHere s.directory.raw.reverse = s.directory.raw.reverse := by
  unfold directory
  cases chosen : s.player with
  | none => exact absurd chosen player
  | some name =>
    obtain ⟨before, whole⟩ := Path.child_ends s.root (Utf8.encode (sanitize name.toList))
    dsimp only
    rw [whole, List.reverse_append]
    exact Path.dropHere_plain (player_plain (proper name chosen)) _

end Selection

namespace Store

variable {s t : Store} {one other : Selection} {first second player : Option String}
  {rs : List Request}

/-- What a player is shown who is selected: the kills of each entity, and the keys. -/
def shown (s : Store) (player : Option String) : (String → List Kill) × List String :=
  (fun entity => ((s.selectPlayer player).2.load entity).1, (s.selectPlayer player).2.keys.1)

theorem load_view (selected : s.selection = one) (entity : String) :
    (s.load entity).1 = s.view one entity := by
  rw [← selected]
  rfl

theorem view_congr (same : t.disk = s.disk) : t.view = s.view := by
  funext selection entity
  unfold view
  rw [load_eq, load_eq]
  simp only [logOf, same]

theorem view_directory (same : one.directory = other.directory) : s.view one = s.view other := by
  funext entity
  cases keyed : keyOf? entity with
  | none => rw [view_unkeyed keyed, view_unkeyed keyed]
  | some key =>
    have keyed' := keyOf?_key keyed
    rw [view_entity keyed, view_entity keyed, view_eq keyed', view_eq keyed', Selection.logPath, same,
      Selection.logPath]

theorem shown_eq (chosen : s.selection.select player = .ok one) :
    s.shown player = ((⟨(s.disk.makeDirs one.directory).2, one, []⟩ : Store).view one,
      (s.disk.makeDirs one.directory).2.keys one.directory) := by
  obtain ⟨selected, disk⟩ := selectPlayer_chosen chosen
  unfold shown keys keysIn
  rw [selected, disk]
  refine Prod.ext (funext fun entity => ?_) rfl
  dsimp only
  rw [load_view selected, view_congr (s := ⟨(s.disk.makeDirs one.directory).2, one, []⟩) disk]

/-- The selected directory is reached neither now nor by a request for it. -/
structure Stuck (s : Store) : Prop where
  astray : ¬s.disk.Settled (s.selection.directory.route s.disk.start)
  unmade : ∀ name, PlainName name →
    (s.disk.makeWay (s.selection.directory.child name)).2 = s.disk

namespace Stuck

theorem perform_disk (stuck : s.Stuck) {r : Request} (about : r.entity? ≠ none) :
    (s.perform r).2.disk = s.disk := by
  obtain ⟨entity, about⟩ := Option.ne_none_iff_exists'.mp about
  have leaves : s.Leaves entity (s.perform r).2.disk := perform_leaves about
  generalize (s.perform r).2.disk = d at leaves
  cases leaves with
  | same => rfl
  | extended keyed k =>
    have plain := logName_plain (canonical_of_keyOf? keyed)
    exact Disk.appendLine_astray stuck.astray (stuck.unmade _ plain) plain _
  | replaced keyed ks =>
    have canonical := canonical_of_keyOf? keyed
    exact Disk.replace_astray stuck.astray (stuck.unmade _ (logName_plain canonical))
      (spareName_plain canonical) _
  | removed keyed removed =>
    have plain := logName_plain (canonical_of_keyOf? keyed)
    exact absurd removed (Disk.remove_astray stuck.astray plain _)

end Stuck

theorem perform_keeps {r : Request} (about : r.entity? ≠ none) :
    (s.perform r).2.selection = s.selection := by
  refine perform_stays (r := r) ?_ rfl
  rintro ⟨player, _, rfl, _⟩
  exact about rfl

theorem run_keeps (calm : ∀ r ∈ rs, r.entity? ≠ none) : (s.run rs).selection = s.selection := by
  induction rs generalizing s with
  | nil => rfl
  | cons r rs ih =>
    obtain ⟨about, others⟩ := List.forall_mem_cons.mp calm
    exact (ih others).trans (perform_keeps about)

theorem Stuck.run_disk (stuck : s.Stuck) (calm : ∀ r ∈ rs, r.entity? ≠ none) :
    (s.run rs).disk = s.disk := by
  induction rs generalizing s with
  | nil => rfl
  | cons r rs ih =>
    obtain ⟨about, others⟩ := List.forall_mem_cons.mp calm
    have disk := stuck.perform_disk about
    have selected : (s.perform r).2.selection = s.selection := perform_keeps about
    have next : (s.perform r).2.Stuck := by
      constructor
      · rw [selected, disk]
        exact stuck.astray
      · rw [selected, disk]
        exact stuck.unmade
    exact (ih next others).trans disk

/-- A player whose root is not reached when the player is selected gets at no file. -/
theorem stuck_of_astray (chosen : s.selection.select first = .ok one)
    (taken : one.root.refusal? = none)
    (astray : ¬(s.selectPlayer first).2.disk.Settled
      (one.root.route (s.selectPlayer first).2.disk.start)) :
    (s.selectPlayer first).2.Stuck := by
  obtain ⟨selected, disk⟩ := selectPlayer_chosen chosen
  have proper := (Selection.select_accepted chosen).1.proper
  have beyond : ¬(s.selectPlayer first).2.disk.Settled
      (one.directory.route (s.selectPlayer first).2.disk.start) := by
    intro settled
    rw [Selection.route_directory proper] at settled
    exact astray (Disk.settled_beginning settled)
  refine ⟨by rwa [selected], ?_⟩
  intro name plain
  rw [selected]
  cases refused : one.directory.refusal? with
  | some cause =>
    have player : one.player ≠ none := by
      intro none
      unfold Selection.directory at refused
      rw [none] at refused
      rw [taken] at refused
      cases refused
    exact Disk.makeWay_refused plain refused (Selection.directory_ends proper player)
  | none =>
    rw [disk] at beyond ⊢
    exact Disk.makeWay_blocked plain rfl refused beyond

section Apart

variable (proper' : other.Proper) (apart : other.directory ≠ s.selection.directory)
include proper' apart

theorem perform_apart (sound : s.Sound) (root : other.root = s.selection.root) {r : Request}
    (about : r.entity? ≠ none) :
    (∀ entity, (s.perform r).2.view other entity = s.view other entity) ∧
      (s.perform r).2.disk.keys other.directory = s.disk.keys other.directory := by
  have outside (key : String) : ¬s.OwnFile (other.logAt s.disk.start key) := by
    rintro ⟨j, log | spare⟩
    · exact apart ((Selection.logAt_eq_iff proper' sound.proper root).mp log).1
    · exact Selection.logAt_ne_spareAt key j spare
  rcases perform_edits (s := s) (r := r) rfl with ⟨edits, edited, own⟩ | ⟨_, _, rfl, _⟩
  · refine views_away proper' (root ▸ sound.settled) edited.disk ?_
    exact fun key => Disk.lookup_outside own (outside key)
  · exact absurd rfl about

theorem run_apart (sound : s.Sound) (root : other.root = s.selection.root)
    (calm : ∀ r ∈ rs, r.entity? ≠ none) :
    (∀ entity, (s.run rs).view other entity = s.view other entity) ∧
      (s.run rs).disk.keys other.directory = s.disk.keys other.directory := by
  induction rs generalizing s with
  | nil => exact ⟨fun _ => rfl, rfl⟩
  | cons r rs ih =>
    obtain ⟨about, others⟩ := List.forall_mem_cons.mp calm
    obtain ⟨next, same⟩ := perform_sound sound (r := r) rfl
    have selected : (s.perform r).2.selection = s.selection := perform_keeps about
    obtain ⟨loaded, listed⟩ := perform_apart proper' apart sound root about
    obtain ⟨later, later_listed⟩ :=
      ih (s := (s.perform r).2) (by rwa [selected]) next (root.trans same.symm) others
    exact ⟨fun entity => (later entity).trans (loaded entity), later_listed.trans listed⟩

end Apart

section Shown

variable (chosen : s.selection.select player = .ok one)
include chosen

theorem shown_settled (settled : s.disk.Settled (one.root.route s.disk.start)) :
    s.shown player = (s.view one, s.disk.keys one.directory) := by
  rw [shown_eq chosen]
  have made := Disk.makeDirs_changed s.disk one.directory
  obtain ⟨loaded, listed⟩ := views_away (s := s)
    (t := ⟨(s.disk.makeDirs one.directory).2, one, []⟩)
    (Selection.select_accepted chosen).1.proper settled made (fun _ => rfl)
  exact Prod.ext (funext loaded) listed

/-- Nothing is shown under a root whose path is refused. -/
theorem shown_refused {cause : Cause} (refused : one.root.refusal? = some cause) :
    s.shown player = (fun _ => [], []) := by
  have beyond {p : Path} (inside : one.root.raw <+: p.raw) : p.refusal? ≠ none := by
    intro taken
    rw [Path.taken_begin inside taken] at refused
    cases refused
  have unfound {d : Disk} {p : Path} {r : Location × Node} (inside : one.root.raw <+: p.raw) :
      d.locate p ≠ .ok r := fun located => beyond inside (Disk.locate_taken located).2
  rw [shown_eq chosen]
  refine Prod.ext (funext fun entity => ?_) (List.eq_nil_iff_forall_not_mem.mpr fun key listed => ?_)
  · cases keyed : keyOf? entity with
    | none => exact view_unkeyed keyed
    | some key =>
      dsimp only
      rw [view_entity keyed, view_eq (keyOf?_key keyed)]
      have inside : one.root.raw <+: (one.logPath key).raw :=
        (Selection.root_begins one).trans (Path.child_begins _ _)
      unfold Disk.textOf
      split
      · rename_i content readable
        obtain ⟨r, located, _⟩ := bind_eq_ok.mp readable
        exact absurd located (unfound inside)
      · rfl
  · obtain ⟨_, _, _, _, located, _⟩ := Disk.mem_keys.mp listed
    exact unfound (Selection.root_begins one) located

end Shown

section Two

variable (chosen : s.selection.select first = .ok one)
  (chosen' : s.selection.select second = .ok other)
include chosen chosen'

theorem select_again : (s.selectPlayer first).2.selection.select second = .ok other := by
  obtain ⟨selected, _⟩ := selectPlayer_chosen chosen
  rw [selected, Selection.select_congr (Selection.select_root chosen)]
  exact chosen'

theorem run_shown (folders : Selection.folder first ≠ Selection.folder second)
    (calm : ∀ r ∈ rs, r.entity? ≠ none) :
    ((s.selectPlayer first).2.run rs).shown second = (s.selectPlayer first).2.shown second := by
  have root : other.root = one.root :=
    (Selection.select_root chosen').trans (Selection.select_root chosen).symm
  have again := select_again chosen chosen'
  have later : ((s.selectPlayer first).2.run rs).selection.select second = .ok other := by
    rw [run_keeps calm]
    exact again
  by_cases settled :
    (s.selectPlayer first).2.disk.Settled (one.root.route (s.selectPlayer first).2.disk.start)
  · have proper := (Selection.select_accepted chosen).1.proper
    have proper' := (Selection.select_accepted chosen').1.proper
    have apart : other.directory ≠ one.directory := by
      intro same
      exact folders ((Selection.same_directory chosen chosen').mp same.symm)
    have selected := (selectPlayer_chosen chosen).1
    generalize (s.selectPlayer first).2 = t at *
    subst selected
    have sound : t.Sound := ⟨proper, settled⟩
    obtain ⟨⟨_, after⟩, still⟩ := run_sound sound rs
    rw [still, ← root] at after
    rw [shown_settled again (root ▸ settled), shown_settled later after]
    obtain ⟨loaded, listed⟩ := run_apart proper' apart sound root calm
    exact Prod.ext (funext loaded) listed
  · -- A root is not reached if its path is refused or leads out of a directory that is missing.
    cases refused : other.root.refusal? with
    | some cause => rw [shown_refused again refused, shown_refused later refused]
    | none =>
      have stuck := stuck_of_astray chosen (root ▸ refused) settled
      rw [shown_eq again, shown_eq later, stuck.run_disk calm]

/-- Selecting one player changes nothing for another whose directory is there. -/
theorem selected_shown (dir : s.disk.isDir other.directory = true) :
    (s.selectPlayer first).2.shown second = s.shown second := by
  have proper' := (Selection.select_accepted chosen').1.proper
  have reached := (Disk.isDir_iff.mp dir).2.2.1
  rw [Selection.route_directory proper'] at reached
  have settled := Disk.settled_beginning reached
  have made := Disk.makeDirs_changed s.disk one.directory
  rw [← (selectPlayer_chosen chosen).2] at made
  have after := made.settled settled
  rw [← made.start] at after
  rw [shown_settled (select_again chosen chosen') after, shown_settled chosen' settled]
  obtain ⟨loaded, listed⟩ := views_away proper' settled made fun _ => rfl
  exact Prod.ext (funext loaded) listed

theorem shown_alike (folders : Selection.folder first = Selection.folder second) :
    s.shown first = s.shown second := by
  have same := (Selection.same_directory chosen chosen').mpr folders
  rw [shown_eq chosen, shown_eq chosen', same]
  exact Prod.ext ((view_directory same).trans (congrFun (view_congr rfl) other)) rfl

end Two

/-- Whatever is requested while one player is selected, another is shown the same after it as
before, unless their names, trimmed and with what cannot be in a file name replaced, are the same.
If they are, the two share one directory and are always shown the same. No player stands for the
root itself. Where the directory of the other is there, nothing changes by selecting the first
either. -/
theorem players_apart (chosen : s.selection.select first = .ok one)
    (chosen' : s.selection.select second = .ok other) (calm : ∀ r ∈ rs, r.entity? ≠ none) :
    (Selection.folder first ≠ Selection.folder second →
      ((s.selectPlayer first).2.run rs).shown second = (s.selectPlayer first).2.shown second ∧
        (s.disk.isDir other.directory = true →
          (s.selectPlayer first).2.shown second = s.shown second)) ∧
      (Selection.folder first = Selection.folder second → one.directory = other.directory ∧
        ∀ t : Store, t.selection.root = s.selection.root → t.shown first = t.shown second) := by
  constructor
  · intro folders
    exact ⟨run_shown chosen chosen' folders calm, selected_shown chosen chosen'⟩
  · intro folders
    refine ⟨(Selection.same_directory chosen chosen').mpr folders, ?_⟩
    intro t root
    exact shown_alike ((Selection.select_congr root).trans chosen)
      ((Selection.select_congr root).trans chosen') folders

def bareRoot : Store where
  disk := ⟨.dir [([0x78], .dir [])], [], []⟩
  selection := ⟨⟨[0x78]⟩, none⟩

theorem bareRoot_shown :
    ((bareRoot.selectPlayer (some " A/B")).2.run [.append (Kill.ofEvent "AB" unknown [])]).shown none =
        bareRoot.shown none ∧
      bareRoot.shown (some " A/B") = bareRoot.shown (some "A:B") := by
  have chosen : bareRoot.selection.select (some " A/B") = .ok ⟨⟨[0x78]⟩, some "A/B"⟩ := by
    decide +kernel
  have shared : bareRoot.selection.select none = .ok ⟨⟨[0x78]⟩, none⟩ := by decide +kernel
  have alike : bareRoot.selection.select (some "A:B") = .ok ⟨⟨[0x78]⟩, some "A:B"⟩ := by
    decide +kernel
  have calm : ∀ r ∈ [Request.append (Kill.ofEvent "AB" unknown [])], r.entity? ≠ none := by
    simp [Request.entity?]
  obtain ⟨after, before⟩ := (players_apart chosen shared calm).1 (by decide +kernel)
  have same := (players_apart chosen alike calm).2 (by decide +kernel)
  exact ⟨after.trans (before (by decide +kernel)), same.2 bareRoot rfl⟩

/-- Two names that differ, one directory: what is appended for one player is shown to the other. -/
theorem alike_names_share :
    Selection.named (some "A/B") ≠ Selection.named (some "A:B") ∧
      (bareRoot.selectPlayer (some "A/B")).1 = true ∧
      (bareRoot.selectPlayer (some "A:B")).1 = true ∧
      ((bareRoot.selectPlayer (some "A:B")).2.shown (some "A/B")).1 "AB" = [] ∧
      (((bareRoot.selectPlayer (some "A:B")).2.run
        [.append (Kill.ofEvent "AB" unknown [])]).shown (some "A/B")).1 "AB" =
          [Kill.ofEvent "AB" unknown []] := by
  refine ⟨by decide +kernel, by decide +kernel, by decide +kernel, by decide +kernel, ?_⟩
  decide +kernel

end Store

end DropLedger
