import DropLedger.Proofs.Disk.Lookup

/-! What a run of steps may do to a disk: files are edited where it is said, and directories are
made. Nothing else is lost or changed, so the way of a path stays as it was. -/
namespace DropLedger

namespace Disk

/-- The locations in `edits` hold the given file now, or nothing. Elsewhere only directories are
new, and only where `new` admits them. -/
structure Changed (new : Location → Prop) (edits : List (Location × Option Bytes))
    (d e : Disk) : Prop where
  start : e.start = d.start
  edited : ∀ loc content, edits.lookup loc = some content →
    d.found loc ≠ some none ∧ e.found loc = content.map some
  others : ∀ loc, edits.lookup loc = none →
    e.found loc = d.found loc ∨ (d.found loc = none ∧ e.found loc = some none ∧ new loc)

theorem lookup_outside {edits : List (Location × Option Bytes)} {inside : Location → Prop}
    {loc : Location} (own : ∀ edit ∈ edits, inside edit.1) (outside : ¬inside loc) :
    edits.lookup loc = none := by
  cases edit : edits.lookup loc with
  | none => rfl
  | some content =>
    obtain ⟨before, after, whole, _⟩ := List.lookup_eq_some_iff.mp edit
    exact absurd (own (loc, content) (by simp [whole])) outside

namespace Changed

variable {new other : Location → Prop} {edits : List (Location × Option Bytes)} {d e f : Disk}

theorem refl : Changed new [] d d := ⟨rfl, nofun, fun _ _ => .inl rfl⟩

theorem mono (le : ∀ loc, new loc → other loc) (h : Changed new edits d e) :
    Changed other edits d e := by
  refine ⟨h.start, h.edited, fun loc away => ?_⟩
  rcases h.others loc away with same | ⟨free, made, admitted⟩
  · exact .inl same
  · exact .inr ⟨free, made, le loc admitted⟩

theorem dirs (h : Changed new edits d e) (loc : Location) (dir : d.found loc = some none) :
    e.found loc = some none := by
  cases away : edits.lookup loc with
  | some content => exact absurd dir (h.edited loc content away).1
  | none =>
    rcases h.others loc away with same | ⟨free, _⟩
    · rw [same, dir]
    · rw [free] at dir
      cases dir

theorem settled {names : List Bytes} (h : Changed new edits d e) (way : d.Settled names) :
    e.Settled names :=
  settled_mono h.dirs way

theorem fileAt_away {loc : Location} (h : Changed new edits d e) (away : edits.lookup loc = none) :
    e.fileAt loc = d.fileAt loc := by
  unfold fileAt
  rcases h.others loc away with same | ⟨free, made, _⟩
  · rw [same]
  · rw [free, made]
    rfl

theorem fileAt_outside {inside : Location → Prop} {loc : Location} (h : Changed new edits d e)
    (own : ∀ edit ∈ edits, inside edit.1) (outside : ¬inside loc) :
    e.fileAt loc = d.fileAt loc :=
  h.fileAt_away (lookup_outside own outside)

theorem fileAt_edited {loc : Location} {content : Option Bytes} (h : Changed new edits d e)
    (edit : edits.lookup loc = some content) : e.fileAt loc = content := by
  rw [fileAt, (h.edited loc content edit).2]
  cases content <;> rfl

section Text

variable {p : Path} {name : Bytes} (plain : PlainName name)
include plain

theorem textOf_away (h : Changed new edits d e) (way : d.Settled (p.route d.start))
    (away : edits.lookup (goal (p.route d.start) ++ [name]) = none) :
    e.textOf (p.child name) = d.textOf (p.child name) := by
  have later := h.settled way
  rw [← h.start] at later
  by_cases fits : (p.child name).Fits d.start
  · rw [textOf_child plain way fits, textOf_child plain later (h.start ▸ fits), h.start,
      h.fileAt_away away]
  · rw [textOf_unfit plain way fits, textOf_unfit plain later (h.start ▸ fits)]

theorem textOf_edited {content : Option Bytes} (h : Changed new edits d e)
    (way : d.Settled (p.route d.start))
    (edit : edits.lookup (goal (p.route d.start) ++ [name]) = some content)
    (fits : content ≠ none → (p.child name).Fits d.start) :
    e.textOf (p.child name) = content.getD [] := by
  have later := h.settled way
  rw [← h.start] at later
  by_cases taken : (p.child name).Fits d.start
  · rw [textOf_child plain later (h.start ▸ taken), h.start, h.fileAt_edited edit]
  · rw [textOf_unfit plain later (h.start ▸ taken)]
    cases content with
    | none => rfl
    | some content => exact absurd (fits nofun) taken

end Text

theorem trans (first : Changed new [] d e) (second : Changed new edits e f) :
    Changed new edits d f := by
  refine ⟨second.start.trans first.start, fun loc content edit => ?_, fun loc away => ?_⟩
  · obtain ⟨free, shown⟩ := second.edited loc content edit
    exact ⟨fun dir => free (first.dirs loc dir), shown⟩
  · rcases second.others loc away with same | ⟨free, made, admitted⟩
    · rw [same]
      exact first.others loc rfl
    · rcases first.others loc rfl with before | ⟨_, dir, _⟩
      · exact .inr ⟨before ▸ free, made, admitted⟩
      · rw [free] at dir
        cases dir

/-- What was edited is what `edits` says, and everything else is as it was. -/
theorem exact_edits (start : e.start = d.start)
    (free : ∀ loc content, edits.lookup loc = some content → d.found loc ≠ some none)
    (h : ∀ loc, e.found loc = match edits.lookup loc with
      | some content => content.map some
      | none => d.found loc) :
    Changed new edits d e := by
  refine ⟨start, fun loc content edit => ⟨free loc content edit, ?_⟩, fun loc away => .inl ?_⟩
  · rw [h, edit]
  · rw [h, away]

theorem one {loc : Location} {content : Option Bytes} (start : e.start = d.start)
    (free : d.found loc ≠ some none)
    (h : ∀ at_loc, e.found at_loc = if at_loc = loc then content.map some else d.found at_loc) :
    Changed new [(loc, content)] d e := by
  refine exact_edits start (fun at_loc text edit => ?_) fun at_loc => ?_
  · by_cases hit : at_loc = loc
    · rwa [hit]
    · rw [lookup_cons_ne _ _ hit] at edit
      cases edit
  · rw [h]
    by_cases hit : at_loc = loc
    · rw [if_pos hit, hit, List.lookup_cons_self]
    · rw [if_neg hit, lookup_cons_ne _ _ hit]
      rfl

theorem two {loc away : Location} {content old : Option Bytes} (start : e.start = d.start)
    (free : d.found loc ≠ some none) (away_free : d.found away ≠ some none)
    (h : ∀ at_loc, e.found at_loc =
      if at_loc = loc then content.map some
      else if at_loc = away then old.map some else d.found at_loc) :
    Changed new [(loc, content), (away, old)] d e := by
  refine exact_edits start (fun at_loc text edit => ?_) fun at_loc => ?_
  · by_cases hit : at_loc = loc
    · rwa [hit]
    · by_cases second : at_loc = away
      · rwa [second]
      · rw [lookup_cons_ne _ _ hit, lookup_cons_ne _ _ second] at edit
        cases edit
  · rw [h]
    by_cases hit : at_loc = loc
    · rw [if_pos hit, hit, List.lookup_cons_self]
    · rw [if_neg hit, lookup_cons_ne _ _ hit]
      by_cases second : at_loc = away
      · rw [if_pos second, second, List.lookup_cons_self]
      · rw [if_neg second, lookup_cons_ne _ _ second]
        rfl

end Changed

/-- The locations of the directories on the way to what a path names. -/
def Way (p : Path) (start : Location) (lengths : List Nat) (loc : Location) : Prop :=
  ∃ length ∈ lengths, loc = goal ((p.upTo length).route start)

/-- The locations that a beginning of the names leads to. -/
def Toward (p : Path) (start : Location) (loc : Location) : Prop :=
  ∃ names, names <+: p.route start ∧ loc = goal names

theorem toward_child {p : Path} {name : Bytes} (plain : PlainName name) {start loc : Location}
    (h : Way (p.child name) start (p.child name).turns loc) : Toward p start loc := by
  obtain ⟨length, turn, rfl⟩ := h
  refine ⟨_, Path.route_beginning start ?_ (Path.names_turn_child plain turn), rfl⟩
  rw [Path.absolute_turn turn, Path.absolute_child plain]

theorem toward_whole {p : Path} {start loc : Location}
    (h : Way p start (p.raw.length :: p.turns) loc) : Toward p start loc := by
  obtain ⟨length, member, rfl⟩ := h
  rcases List.mem_cons.mp member with rfl | turn
  · refine ⟨_, List.prefix_rfl, ?_⟩
    rw [Path.upTo, List.take_length]
  · exact ⟨_, Path.route_beginning start (Path.absolute_turn turn) (Path.names_turn turn), rfl⟩

variable {d e : Disk} {p : Path}

theorem makeDir_changed (h : d.makeDir p = .ok e) :
    Changed (· = goal (p.route d.start)) [] d e := by
  unfold makeDir at h
  obtain ⟨placed, at_place, h⟩ := bind_eq_ok.mp h
  split at h
  · rename_i loc
    cases h
    obtain ⟨up, name, rfl, at_goal, dir, free, _⟩ := place_sound at_place
    have vacant : d.found (up ++ [name]) = none := by rw [found, free]; rfl
    refine ⟨rfl, by simp, fun loc _ => ?_⟩
    rw [found_makeDir dir vacant]
    split
    · rename_i here
      exact .inr ⟨by rw [here, vacant], rfl, by rw [here, at_goal]⟩
    · exact .inl rfl
  · cases h

/-- Making a directory with `settle` around it: what was made is kept, whatever is reported. -/
theorem settle_changed {new : Location → Prop} {made : Except Cause Disk} (q : Path)
    (before : Changed new [] d e) (after : ∀ f, made = .ok f → Changed new [] e f) :
    Changed new [] d (e.settle q made).2 := by
  unfold settle
  split
  · rename_i f
    exact before.trans (after f rfl)
  · split <;> exact before

theorem makeChain_changed (lengths : List Nat) :
    Changed (Way p d.start lengths) [] d (d.makeChain p lengths).2 := by
  induction lengths generalizing d with
  | nil => exact .refl
  | cons length up ih =>
    have nearer : ∀ loc, Way p d.start up loc → Way p d.start (length :: up) loc :=
      fun _ ⟨n, member, same⟩ => ⟨n, List.mem_cons_of_mem _ member, same⟩
    have first : ∀ d' : Disk, d'.start = d.start → ∀ f, d'.makeDir (p.upTo length) = .ok f →
        Changed (Way p d.start (length :: up)) [] d' f := by
      intro d' start f made
      exact (makeDir_changed made).mono fun _ same =>
        ⟨length, List.mem_cons_self, by rw [same, start]⟩
    unfold makeChain
    split
    · have way := (ih (d := d)).mono nearer
      split
      · rename_i shown
        rw [shown] at way
        exact way
      · rename_i d' shown
        rw [shown] at way
        exact settle_changed _ way (first d' way.start)
    · exact settle_changed _ .refl (first d rfl)

theorem makeDirs_changed (d : Disk) (p : Path) :
    Changed (Toward p d.start) [] d (d.makeDirs p).2 := by
  unfold makeDirs
  split
  · exact .refl
  · exact (makeChain_changed _).mono fun _ => toward_whole

end Disk

end DropLedger
