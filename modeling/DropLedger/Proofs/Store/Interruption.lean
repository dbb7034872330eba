import DropLedger.Proofs.Disk.Steps
import DropLedger.Proofs.Store.Footprint

/-! A replacement that is interrupted. At every point of it the log is as it was or has been
replaced, and all other logs are as they were; a spare file that is left over is in nobody's way. -/
namespace DropLedger.Store

variable {s t : Store} {entity key : String} {ks : List Kill} {f : Disk}

theorem replace_disk (keyed : keyOf? entity = some key) :
    (s.replace entity ks).2.disk = (s.replaceLog key ks).2 := by
  unfold replace tryReplace
  rw [reported_disk, keyOf_eq_ok.mpr keyed]
  exact concluded_disk _ _ _

theorem replace_unkeyed (unkeyed : keyOf? entity = none) :
    (s.replace entity ks).2.disk = s.disk := by
  unfold replace tryReplace keyOf
  rw [reported_disk, unkeyed]

/-- What the files are while a log is replaced: no log has changed, or that one was replaced. -/
inductive Halfway (s : Store) (entity : String) (ks : List Kill) (f : Disk) : Prop where
  | before {edits : List (Location × Option Bytes)}
      (changed : Disk.Changed (fun _ => True) edits s.disk f)
      (spare : ∀ loc content, edits.lookup loc = some content → ∃ key, loc = s.spareAt key)
  | after {key : String} (keyed : keyOf? entity = some key) (fits : s.Fits key)
      (changed : Disk.Changed (fun _ => True)
        [(s.logAt key, some (Log.write ks)), (s.spareAt key, none)] s.disk f)

theorem halfway_of_between (between : Disk.Between s.disk (s.replace entity ks).2.disk f) :
    s.Halfway entity ks f := by
  cases keyed : keyOf? entity with
  | none =>
    rw [replace_unkeyed keyed] at between
    obtain ⟨steps, whole, cut⟩ := between
    obtain rfl : [] = steps := Disk.replay_injective whole
    cases cut
    exact .before .refl nofun
  | some key =>
    rw [replace_disk keyed] at between
    have canonical := canonical_of_keyOf? keyed
    obtain ⟨edits, changed, rfl | ⟨half, rfl⟩ | ⟨rfl, fits⟩⟩ :=
      Disk.replace_cut (logName_plain canonical) (spareName_plain canonical) rfl between
    · exact .before changed nofun
    · refine .before changed ?_
      intro loc content edit
      exact ⟨key, (of_lookup_one edit).1⟩
    · exact .after keyed fits changed

namespace Halfway

variable (half : s.Halfway entity ks f)
include half

theorem changed : ∃ edits, Disk.Changed (fun _ => True) edits s.disk f := by
  cases half with
  | before changed _ => exact ⟨_, changed⟩
  | after _ _ changed => exact ⟨_, changed⟩

theorem start : f.start = s.disk.start := by
  obtain ⟨_, changed⟩ := half.changed
  exact changed.start

theorem settled {names : List Bytes} (way : s.disk.Settled names) : f.Settled names := by
  obtain ⟨_, changed⟩ := half.changed
  exact changed.settled way

section Owner

variable {owner : Selection} (accepted : owner.Proper) (root : owner.root = s.selection.root)
  (sound : s.Sound)
include accepted root sound

/-- Every entity loads as before, or it is the one whose log was replaced. -/
theorem view (name : String) :
    ({ s with disk := f } : Store).view owner name = s.view owner name ∨
      owner.directory = s.selection.directory ∧ keyOf? name = keyOf? entity ∧
        (keyOf? entity).isSome ∧ ({ s with disk := f } : Store).view owner name = ks := by
  have way : s.disk.Settled (owner.root.route s.disk.start) := root ▸ sound.settled
  cases half with
  | before changed spare =>
    exact .inl ((views_away accepted way changed (Selection.spares_away spare)).1 name)
  | @after replaced keyed' fits changed =>
    cases keyed : keyOf? name with
    | none => exact .inl ((view_unkeyed keyed).trans (view_unkeyed keyed).symm)
    | some key =>
      rw [view_entity keyed, view_entity keyed]
      by_cases hit : owner.logAt s.disk.start key = s.logAt replaced
      · obtain ⟨same, rfl⟩ := (Selection.logAt_eq_iff accepted sound.proper root).mp hit
        refine .inr ⟨same, keyed'.symm, by rw [keyed']; rfl, ?_⟩
        have path : owner.logPath key = s.selection.logPath key := by
          rw [Selection.logPath, same, Selection.logPath]
        have shown := view_edited (t := { s with disk := f }) accepted way (keyOf?_key keyed)
          changed (by rw [hit, List.lookup_cons_self]) (fun _ => path ▸ fits)
        exact shown.trans (Log.kills_write ks)
      · refine .inl (view_away accepted way (keyOf?_key keyed) changed ?_)
        rw [lookup_cons_ne _ _ hit]
        exact Selection.spare_away key replaced

/-- A directory lists the same keys as before, or the key whose log was replaced besides. -/
theorem keys :
    f.keys owner.directory = s.disk.keys owner.directory ∨
      owner.directory = s.selection.directory ∧ ∃ key, keyOf? entity = some key ∧
        ∀ j, j ∈ f.keys owner.directory ↔ j = key ∨ j ∈ s.disk.keys owner.directory := by
  have way : s.disk.Settled (owner.directory.route s.disk.start) :=
    Selection.settled_directory accepted (root ▸ sound.settled)
  cases half with
  | before changed spare =>
    exact .inl (changed.keys_away way (Selection.spares_away spare))
  | @after key keyed fits changed =>
    have at_log : ∀ {j}, owner.logAt s.disk.start j = s.logAt key ↔
        owner.directory = s.selection.directory ∧ j = key :=
      Selection.logAt_eq_iff accepted sound.proper root
    have away : ∀ {j}, owner.logAt s.disk.start j ≠ s.logAt key →
        [(s.logAt key, some (Log.write ks)), (s.spareAt key, none)].lookup
          (owner.logAt s.disk.start j) = none := by
      intro j elsewhere
      rw [lookup_cons_ne _ _ elsewhere]
      exact Selection.spare_away j key
    by_cases same : owner.directory = s.selection.directory
    · by_cases named : owner.directory.raw = []
      · exact .inl ((Disk.keys_unnamed named).trans (Disk.keys_unnamed named).symm)
      · have here : [(s.logAt key, some (Log.write ks)), (s.spareAt key, none)].lookup
            (owner.logAt s.disk.start key) = some (some (Log.write ks)) := by
          rw [at_log.mpr ⟨same, rfl⟩, List.lookup_cons_self]
        refine .inr ⟨same, key, keyed, changed.mem_keys_written way named (keyOf?_key keyed)
          (same ▸ fits) here fun j other => ?_⟩
        exact away fun hit => other (at_log.mp hit).2
    · refine .inl (changed.keys_away way fun j => ?_)
      exact away fun hit => same (at_log.mp hit).1

end Owner

end Halfway

/-- A replacement that succeeds leaves what it was given and no spare file, whatever was there. -/
theorem replace_leaves (sound : s.Sound) (done : s.replace entity ks = (true, t)) :
    (t.load entity).1 = ks ∧
      ∀ key, keyOf? entity = some key → t.disk.found (s.spareAt key) = none := by
  rcases replace_done done with ⟨failed, _⟩ | ⟨_, key, keyed, fits, edited⟩
  · cases failed
  · have way := Selection.settled_directory sound.proper sound.settled
    have read := edited.read_log (keyOf?_key keyed) fits way
    refine ⟨?_, ?_⟩
    · rw [load_read keyed, read]
      exact Log.kills_write ks
    · intro other same
      obtain rfl := Option.some.inj (keyed.symm.trans same)
      have apart : s.spareAt key ≠ s.logAt key := (Selection.logAt_ne_spareAt key key).symm
      refine (edited.disk.edited (s.spareAt key) none ?_).2
      rw [lookup_cons_ne _ _ apart, List.lookup_cons_self]

/-- The steps of a replacement: directories on the way to the log, and then a spare file that is
made empty, is given the content and takes the place of the log or, where it cannot, is taken
away. -/
theorem replace_steps (s : Store) (entity : String) (ks : List Kill) :
    ∃ dirs ends, (s.replace entity ks).2.disk = s.disk.replay (ends ++ dirs) ∧
      (∀ c ∈ dirs, ∃ loc, c = .makeDir loc) ∧
      (ends = [] ∨ ∃ key last, keyOf? entity = some key ∧
        (last = .move (s.spareAt key) (s.logAt key) ∨ last = .remove (s.spareAt key)) ∧
        ends = [last, .extend (s.spareAt key) (Log.write ks), .clear (s.spareAt key)]) := by
  cases keyed : keyOf? entity with
  | none => exact ⟨[], [], replace_unkeyed keyed, nofun, .inl rfl⟩
  | some key =>
    rw [replace_disk keyed]
    have canonical := canonical_of_keyOf? keyed
    obtain ⟨dirs, makes, ⟨_, made⟩ | ⟨_, last, _, replaced, kind⟩⟩ :=
      Disk.replace_steps (logName_plain canonical) (spareName_plain canonical)
        (r := (s.replaceLog key ks).1) (e := (s.replaceLog key ks).2) rfl
    · exact ⟨dirs, [], made, makes.made, .inl rfl⟩
    · refine ⟨dirs, _, replaced, makes.made, .inr ⟨key, last, rfl, ?_, rfl⟩⟩
      exact kind.imp (·.2) (·.2)

/-- Wherever a replacement is interrupted, all entities load as before, but that the entity may load
what it was given, and all directories list the same keys, but that its key may be listed besides.
No spare file is where the log of a listed key is. A replacement that succeeds later leaves what it
was given and no spare file. The root has to be where its path leads: one that is there is, and so
is one whose path leads out of no directory. -/
theorem replacement_is_atomic (proper : s.selection.Proper)
    (settled : s.disk.Settled (s.selection.root.route s.disk.start)) (entity : String)
    (ks : List Kill) (f : Disk) (between : Disk.Between s.disk (s.replace entity ks).2.disk f) :
    (∃ dirs ends, (s.replace entity ks).2.disk = s.disk.replay (ends ++ dirs) ∧
      (∀ c ∈ dirs, ∃ loc, c = .makeDir loc) ∧
      (ends = [] ∨ ∃ key last, keyOf? entity = some key ∧
        (last = .move (s.spareAt key) (s.logAt key) ∨ last = .remove (s.spareAt key)) ∧
        ends = [last, .extend (s.spareAt key) (Log.write ks), .clear (s.spareAt key)])) ∧
      (∀ owner : Selection, owner.Proper → owner.root = s.selection.root →
        (∀ name, ({ s with disk := f } : Store).view owner name = s.view owner name ∨
          owner.directory = s.selection.directory ∧ keyOf? name = keyOf? entity ∧
            (keyOf? entity).isSome ∧ ({ s with disk := f } : Store).view owner name = ks) ∧
        (f.keys owner.directory = s.disk.keys owner.directory ∨
          owner.directory = s.selection.directory ∧ ∃ key, keyOf? entity = some key ∧
            ∀ j, j ∈ f.keys owner.directory ↔ j = key ∨ j ∈ s.disk.keys owner.directory) ∧
        ∀ j ∈ f.keys owner.directory, ∀ key, owner.logAt s.disk.start j ≠ s.spareAt key) ∧
      ∀ u v : Store, u.disk = f → u.selection.Proper → u.selection.root = s.selection.root →
        ∀ name js, u.replace name js = (true, v) →
          (v.load name).1 = js ∧
            ∀ key, keyOf? name = some key → v.disk.found (u.spareAt key) = none := by
  have sound : s.Sound := ⟨proper, settled⟩
  have half := halfway_of_between between
  refine ⟨replace_steps s entity ks, ?_, ?_⟩
  · intro owner accepted root
    refine ⟨half.view accepted root sound, half.keys accepted root sound, ?_⟩
    intro j _ key
    exact Selection.logAt_ne_spareAt j key
  · rintro u v rfl accepted root name js done
    refine replace_leaves ⟨accepted, ?_⟩ done
    rw [root, half.start]
    exact half.settled settled

/-- Two logs, and a spare file that was left behind. -/
def leftSpare : Store where
  disk := ⟨.dir [([0x78], .dir [(logName "ab", .file (Log.write [Kill.ofEvent "AB" unknown []])),
    (spareName "ab", .file [newline]),
    (logName "c", .file (Log.write [Kill.ofEvent "C" unknown []]))])], [], []⟩
  selection := ⟨⟨[0x78]⟩, none⟩

/-- The spare file was made empty and has got the first byte of what it is to hold. -/
def halfWritten : Disk :=
  (leftSpare.disk.commit (.clear (leftSpare.spareAt "ab"))).commit
    (.extend (leftSpare.spareAt "ab") [0x7B])

theorem halfWritten_between :
    Disk.Between leftSpare.disk (leftSpare.replace "AB" [Kill.ofEvent "Ab" unknown []]).2.disk
      halfWritten := by
  obtain ⟨dirs, ends, whole, _⟩ := replace_steps leftSpare "AB" [Kill.ofEvent "Ab" unknown []]
  have steps : (leftSpare.replace "AB" [Kill.ofEvent "Ab" unknown []]).2.disk.journal =
      [.move (leftSpare.spareAt "ab") (leftSpare.logAt "ab"),
        .extend (leftSpare.spareAt "ab") (Log.write [Kill.ofEvent "Ab" unknown []]),
        .clear (leftSpare.spareAt "ab")] := by decide +kernel
  refine ⟨_, whole, ?_⟩
  rw [whole, Disk.replay_journal, show leftSpare.disk.journal = [] from rfl,
    List.append_nil] at steps
  rw [steps]
  exact .sooner (.begun (by decide +kernel))

theorem halfWritten_replaced :
    halfWritten.fileAt (leftSpare.spareAt "ab") = some [0x7B] ∧
      (({ leftSpare with disk := halfWritten } : Store).view leftSpare.selection "c" =
        [Kill.ofEvent "C" unknown []]) ∧
      ((({ leftSpare with disk := halfWritten } : Store).replace "ab" []).2.load "ab").1 = [] ∧
      (({ leftSpare with disk := halfWritten } : Store).replace "ab" []).2.disk.found
        (leftSpare.spareAt "ab") = none := by
  have settled := settled_of_isDir (d := leftSpare.disk) (p := leftSpare.selection.root) (by decide)
  obtain ⟨_, owners, again⟩ := replacement_is_atomic (s := leftSpare) nofun settled _ _ _
    halfWritten_between
  obtain ⟨loads, _⟩ := owners leftSpare.selection nofun rfl
  refine ⟨by decide +kernel, ?_, ?_⟩
  · rcases loads "c" with same | ⟨_, key, _⟩
    · rw [same]
      decide +kernel
    · exact absurd key (by decide +kernel)
  · have done : ({ leftSpare with disk := halfWritten } : Store).replace "ab" [] =
        (true, (({ leftSpare with disk := halfWritten } : Store).replace "ab" []).2) := by
      rw [show true = (({ leftSpare with disk := halfWritten } : Store).replace "ab" []).1 by
        decide +kernel]
    obtain ⟨loaded, gone⟩ := again { leftSpare with disk := halfWritten } _ rfl nofun rfl "ab" []
      done
    exact ⟨loaded, gone "ab" (by decide +kernel)⟩

/-- Where the root is reached through a directory that is missing, that directory is made first, and
from then on logs are found that were not found before. -/
theorem detour_replaced :
    (detour.replace "b" []).1 = true ∧ detour.view detour.selection "a" = [] ∧
      (detour.replace "b" []).2.view detour.selection "a" = [Kill.ofEvent "A" unknown []] := by
  refine ⟨by decide +kernel, by decide +kernel, by decide +kernel⟩

end DropLedger.Store
