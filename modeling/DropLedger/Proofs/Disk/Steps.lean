import DropLedger.Proofs.Disk.Journal

/-! Writing that is cut short. Replacing a file is a run of single steps, and wherever the run ends,
the file is as it was or has the new content as a whole. -/
namespace DropLedger.Disk

variable {d e f : Disk} {p : Path}

/-- A disk on which steps were cut short: some of them were done, and of the next one, if it adds to
a file, a beginning. The latest step comes first. -/
inductive CutShort (d : Disk) : List Change → Disk → Prop where
  | done (steps : List Change) : CutShort d steps (d.replay steps)
  | begun {loc : Location} {more part : Bytes} {early : List Change} (start : part <+: more) :
      CutShort d (.extend loc more :: early) ((d.replay early).commit (.extend loc part))
  | sooner {c : Change} {early : List Change} {f : Disk} (cut : CutShort d early f) :
      CutShort d (c :: early) f

/-- A disk that may be found on the way from one disk to another. -/
def Between (d e f : Disk) : Prop := ∃ steps, e = d.replay steps ∧ CutShort d steps f

/-- What was done on a disk is told by its journal. -/
theorem replay_journal (d : Disk) (steps : List Change) :
    (d.replay steps).journal = steps ++ d.journal := by
  induction steps with
  | nil => rfl
  | cons c steps ih => exact congrArg (c :: ·) ih

theorem replay_injective {steps others : List Change} (h : d.replay steps = d.replay others) :
    steps = others := by
  have same := congrArg journal h
  rw [replay_journal, replay_journal] at same
  exact List.append_cancel_right same

/-- Where making directories is cut short, fewer of them were made. -/
theorem Makes.cut {steps : List Change} (h : Makes d steps) (cut : CutShort d steps f) :
    Changed (fun _ => True) [] d f := by
  induction h with
  | nothing =>
    cases cut with
    | done => exact .refl
  | next before way free ih =>
    cases cut with
    | done => exact (Makes.next before way free).changed
    | sooner cut => exact ih cut

section Replace

variable {name spare content : Bytes} {r : Except Cause Unit} (plain : PlainName name)
  (spared : PlainName spare)
include plain spared

/-- Replacing a file makes directories, then writes the spare file, and then moves it over the file
or, if that fails, takes it away. -/
theorem replace_steps (h : d.replace (p.child name) (p.child spare) content = (r, e)) :
    ∃ dirs, Makes d dirs ∧
      (((∃ cause, r = .error cause) ∧ e = d.replay dirs) ∨
        ∃ g last, (d.replay dirs).write (p.child spare) content = .ok g ∧
          e = d.replay (last :: .extend (goal (p.route d.start) ++ [spare]) content ::
            .clear (goal (p.route d.start) ++ [spare]) :: dirs) ∧
          ((r = .ok () ∧ last = .move (goal (p.route d.start) ++ [spare])
              (goal (p.route d.start) ++ [name])) ∨
            ((∃ cause, r = .error cause) ∧
              last = .remove (goal (p.route d.start) ++ [spare])))) := by
  obtain ⟨dirs, whole, makes⟩ := makeChain_makes d (p.child name) (p.child name).turns
  have start : (d.replay dirs).start = d.start := replay_start d dirs
  refine ⟨dirs, makes, ?_⟩
  rcases replace_child spared h with ⟨cause, rfl, rfl⟩ | ⟨d', g, made, written, done⟩
  · exact .inl ⟨⟨cause, rfl⟩, whole⟩
  · obtain rfl : d' = d.replay dirs := (congrArg Prod.snd made).symm.trans whole
    have wrote := write_steps written
    rw [start, Path.goal_child spared, ← replay_append] at wrote
    have still : g.start = d.start := wrote ▸ replay_start d _
    rcases done with ⟨rfl, moved⟩ | ⟨cause, rfl, removed⟩
    · have step := move_step moved
      rw [still, Path.goal_child spared, Path.goal_child plain, wrote] at step
      exact .inr ⟨g, _, written, step, .inl ⟨rfl, rfl⟩⟩
    · have step := remove_step removed
      rw [still, Path.goal_child spared, wrote] at step
      exact .inr ⟨g, _, written, step, .inr ⟨⟨cause, rfl⟩, rfl⟩⟩

/-- Wherever replacing a file is cut short, no file has changed but the spare file, or the file has
been replaced and the spare file is gone. -/
theorem replace_cut (h : d.replace (p.child name) (p.child spare) content = (r, e))
    (between : Between d e f) :
    ∃ edits, Changed (fun _ => True) edits d f ∧
      (edits = [] ∨ (∃ half, edits = [(goal (p.route d.start) ++ [spare], half)]) ∨
        edits = [(goal (p.route d.start) ++ [name], some content),
          (goal (p.route d.start) ++ [spare], none)] ∧ (p.child name).Fits d.start) := by
  obtain ⟨steps, whole, cut⟩ := between
  obtain ⟨dirs, makes, ⟨_, made⟩ | ⟨g, last, written, replaced, kind⟩⟩ :=
    replace_steps plain spared h
  · obtain rfl := replay_injective (whole.symm.trans made)
    exact ⟨[], makes.cut cut, .inl rfl⟩
  · have start : (d.replay dirs).start = d.start := replay_start d dirs
    obtain ⟨_, _, _, way, free, _⟩ := write_child spared written
    rw [start] at way free
    have half : ∀ part g, (∀ loc, g.found loc = if loc = goal (p.route d.start) ++ [spare]
        then some (some part) else (d.replay dirs).found loc) → g.start = (d.replay dirs).start →
        Changed (fun _ => True) [(goal (p.route d.start) ++ [spare], some part)] d g :=
      fun part g shown same => makes.changed.trans (.one same free shown)
    obtain rfl := replay_injective (whole.symm.trans replaced)
    cases cut with
    | done =>
      rw [← replaced]
      rcases replace_changed plain spared h with ⟨_, _, kept | gone⟩ | ⟨_, fits, edited⟩
      · exact ⟨_, (kept.mono fun _ _ => trivial), .inl rfl⟩
      · exact ⟨_, (gone.mono fun _ _ => trivial), .inr (.inl ⟨_, rfl⟩)⟩
      · exact ⟨_, (edited.mono fun _ _ => trivial), .inr (.inr ⟨rfl, fits⟩)⟩
    | begun => rcases kind with ⟨_, same⟩ | ⟨_, same⟩ <;> cases same
    | sooner cut =>
      cases cut with
      | done => exact ⟨_, half _ _ (found_rewritten way free content) rfl, .inr (.inl ⟨_, rfl⟩)⟩
      | begun => exact ⟨_, half _ _ (found_rewritten way free _) rfl, .inr (.inl ⟨_, rfl⟩)⟩
      | sooner cut =>
        cases cut with
        | done => exact ⟨_, half _ _ (found_clear way free) rfl, .inr (.inl ⟨_, rfl⟩)⟩
        | sooner cut => exact ⟨[], makes.cut cut, .inl rfl⟩

end Replace

end DropLedger.Disk
