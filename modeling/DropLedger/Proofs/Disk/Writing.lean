import DropLedger.Proofs.Disk.Changed

/-! What appending to a file, replacing one and removing one come to. A failure may leave new
directories behind, but it leaves the files as they were, the spare file apart. -/
namespace DropLedger

namespace Disk

variable {d e : Disk} {p : Path}

theorem makeWay_changed (d : Disk) (p : Path) :
    Changed (Way p d.start p.turns) [] d (d.makeWay p).2 :=
  makeChain_changed p.turns

theorem openFile_extended {loc : Location} {content : Bytes} {new : Location → Prop}
    (h : d.openFile p = .ok (loc, content, e)) (more : Bytes) :
    loc = goal (p.route d.start) ∧ p.Fits d.start ∧ content = (d.fileAt loc).getD [] ∧
      Changed new [(loc, some (content ++ more))] d (e.commit (.extend loc more)) := by
  unfold openFile at h
  obtain ⟨⟨target, old⟩, targeted, h⟩ := bind_eq_ok.mp h
  obtain ⟨up, name, rfl, at_goal, dir, shown, fits, _⟩ := fileTarget_sound targeted
  cases old with
  | some text =>
    cases h
    have free : d.found (up ++ [name]) ≠ some none := by simp [shown]
    refine ⟨at_goal.symm, fits, by rw [fileAt, shown]; rfl, .one rfl free fun loc => ?_⟩
    exact found_extend dir shown more loc
  | none =>
    cases h
    have free : d.found (up ++ [name]) ≠ some none := by simp [shown]
    refine ⟨at_goal.symm, fits, by rw [fileAt, shown]; rfl, .one rfl free fun loc => ?_⟩
    exact found_rewritten dir free more loc

/-- How a line is added. -/
theorem appendLine_cases {line : Bytes} {r : Except Cause Unit}
    (h : d.appendLine p line = (r, e)) :
    (∃ cause, r = .error cause ∧ e = (d.makeWay p).2) ∨
      ∃ d' loc content f, d.makeWay p = (.ok (), d') ∧ d'.openFile p = .ok (loc, content, f) ∧
        r = .ok () ∧ e = f.commit (.extend loc (freshLine content line)) := by
  unfold appendLine at h
  split at h
  · rename_i cause e' failed
    cases h
    exact .inl ⟨cause, rfl, by rw [failed]⟩
  · rename_i d' made
    split at h
    · rename_i cause _
      cases h
      exact .inl ⟨cause, rfl, by rw [made]⟩
    · rename_i loc content f opened
      cases h
      exact .inr ⟨d', loc, content, f, made, opened, rfl, rfl⟩

/-- A line is added to what the file held, or nothing happens to the files. -/
theorem appendLine_changed {line : Bytes} {r : Except Cause Unit}
    (h : d.appendLine p line = (r, e)) :
    (∃ cause, r = .error cause ∧ Changed (Way p d.start p.turns) [] d e) ∨
      (r = .ok () ∧ p.Fits d.start ∧
        Changed (Way p d.start p.turns)
          [(goal (p.route d.start), some (((d.fileAt (goal (p.route d.start))).getD []) ++
            freshLine ((d.fileAt (goal (p.route d.start))).getD []) line))] d e) := by
  have way := makeWay_changed d p
  rcases appendLine_cases h with ⟨cause, rfl, rfl⟩ | ⟨d', loc, content, f, made, opened, rfl, rfl⟩
  · exact .inl ⟨cause, rfl, way⟩
  · rw [made] at way
    obtain ⟨at_goal, fits, old, edited⟩ := openFile_extended opened (freshLine content line)
    rw [way.start] at at_goal fits
    rw [way.fileAt_away rfl] at old
    subst at_goal
    subst old
    exact .inr ⟨rfl, fits, way.trans edited⟩

/-- Where a line was added, the path leads to its file. -/
theorem appendLine_settled {line : Bytes} (h : d.appendLine p line = (.ok (), e)) :
    e.Settled (p.route d.start) := by
  have way := makeWay_changed d p
  rcases appendLine_cases h with ⟨_, failed, _⟩ | ⟨d', loc, content, f, made, opened, _, rfl⟩
  · cases failed
  · rw [made] at way
    obtain ⟨⟨_, old⟩, targeted, _⟩ := bind_eq_ok.mp opened
    obtain ⟨_, _, _, _, _, _, _, settled⟩ := fileTarget_sound targeted
    rw [way.start] at settled
    have edited : Changed (fun _ => True) _ _ _ :=
      (openFile_extended opened (freshLine content line)).2.2.2
    exact edited.settled settled

theorem write_spec {content : Bytes} (h : d.write p content = .ok e) :
    e.start = d.start ∧ ∃ up name, goal (p.route d.start) = up ++ [name] ∧
      d.found up = some none ∧ d.found (up ++ [name]) ≠ some none ∧ p.Fits d.start ∧
      d.Settled (p.route d.start) ∧
      ∀ loc, e.found loc = if loc = up ++ [name] then some (some content) else d.found loc := by
  unfold write clearFile at h
  obtain ⟨⟨loc, f⟩, cleared, h⟩ := bind_eq_ok.mp h
  obtain ⟨⟨target, old⟩, targeted, cleared⟩ := bind_eq_ok.mp cleared
  obtain ⟨up, name, rfl, at_goal, dir, shown, fits, settled⟩ := fileTarget_sound targeted
  cases cleared
  cases h
  have free : d.found (up ++ [name]) ≠ some none := by
    rw [shown]
    cases old <;> nofun
  exact ⟨rfl, up, name, at_goal, dir, free, fits, settled, found_rewritten dir free content⟩

/-- What was written is read, whatever was there before. -/
theorem read_write {content : Bytes} (h : d.write p content = .ok e) : e.read p = .ok content := by
  obtain ⟨start, up, name, at_goal, _, free, fits, settled, shown⟩ := write_spec h
  unfold write clearFile at h
  obtain ⟨_, cleared, _⟩ := bind_eq_ok.mp h
  obtain ⟨_, targeted, _⟩ := bind_eq_ok.mp cleared
  obtain ⟨named, bare, names, last, route, stays, leaves⟩ := fileTarget_named targeted
  rw [route, goal_snoc, follow_plain stays leaves] at at_goal
  obtain ⟨rfl, rfl⟩ := List.append_singleton_inj.mp at_goal
  have there : e.found (goal names ++ [last]) = some (some content) := by rw [shown, if_pos rfl]
  have kept : ∀ loc, d.found loc = some none → e.found loc = some none := by
    intro loc dir
    rw [shown, if_neg, dir]
    rintro rfl
    exact free dir
  rw [route] at settled
  have still : e.Settled names := settled_mono kept (settled_snoc.mp settled).1
  rw [← start] at route fits
  unfold read
  rw [locate_last route named bare stays leaves still fits (look_of_file there)]
  rfl

theorem move_spec {target : Path} {up : Location} {name content : Bytes}
    (h : d.move p target = .ok e) (source : goal (p.route d.start) = up ++ [name])
    (there : d.found (up ++ [name]) = some (some content)) :
    e.start = d.start ∧ target.Fits d.start ∧
      d.found (goal (target.route d.start)) ≠ some none ∧
      ∀ loc, e.found loc =
        if loc = goal (target.route d.start) then some (some content)
        else if loc = up ++ [name] then none else d.found loc := by
  unfold move at h
  obtain ⟨⟨old, n⟩, located, h⟩ := bind_eq_ok.mp h
  obtain ⟨⟨new, kind⟩, targeted, h⟩ := bind_eq_ok.mp h
  obtain ⟨_, _, at_source, _⟩ := locate_sound located
  obtain ⟨way, last, rfl, at_goal, dir, shown, fits, _⟩ := fileTarget_sound targeted
  cases h
  have free : d.found (way ++ [last]) ≠ some none := by
    rw [shown]
    cases kind <;> nofun
  rw [at_source, source, at_goal]
  exact ⟨rfl, fits, free, found_move there dir free⟩

theorem remove_changed {name : Bytes} {new : Location → Prop} (plain : PlainName name)
    (h : d.remove (p.child name) = .ok e) :
    Changed new [(goal (p.route d.start) ++ [name], none)] d e := by
  unfold remove at h
  obtain ⟨⟨loc, n⟩, located, h⟩ := bind_eq_ok.mp h
  obtain ⟨_, _, at_goal, there⟩ := locate_sound located
  rw [Path.goal_child plain] at at_goal
  subst at_goal
  cases n with
  | dir es => cases h
  | file content =>
    cases h
    have shown : d.found (goal (p.route d.start) ++ [name]) = some (some content) := by
      rw [found, there]
      rfl
    have free : d.found (goal (p.route d.start) ++ [name]) ≠ some none := by simp [shown]
    have dir : d.found (goal (p.route d.start)) = some none := dir_of_found (by rw [shown]; simp)
    exact .one rfl free (found_remove dir free)

theorem remove_file {name content : Bytes} (plain : PlainName name)
    (settled : d.Settled (p.route d.start)) (fits : (p.child name).Fits d.start)
    (there : d.found (goal (p.route d.start) ++ [name]) = some (some content)) :
    ∃ e, d.remove (p.child name) = .ok e := by
  unfold remove
  rw [locate_child plain settled fits (look_of_file there)]
  exact ⟨_, rfl⟩

theorem unread_of_missing (h : d.remove p = .error .noEntry) (content : Bytes) :
    d.read p ≠ .ok content := by
  unfold remove at h
  unfold read
  cases located : d.locate p with
  | error cause => nofun
  | ok r =>
    obtain ⟨loc, n⟩ := r
    rw [located] at h
    cases n <;> cases h

section Replace

variable {f : Disk} {name spare content : Bytes} {new : Location → Prop} (plain : PlainName name)
  (spared : PlainName spare)

include spared in
theorem write_child (h : d.write (p.child spare) content = .ok f) :
    f.start = d.start ∧ (p.child spare).Fits d.start ∧ d.Settled (p.route d.start) ∧
      d.found (goal (p.route d.start)) = some none ∧
      d.found (goal (p.route d.start) ++ [spare]) ≠ some none ∧
      ∀ loc, f.found loc =
        if loc = goal (p.route d.start) ++ [spare] then some (some content) else d.found loc := by
  obtain ⟨start, up, last, at_spare, dir, free, fits, settled, shown⟩ := write_spec h
  rw [Path.goal_child spared] at at_spare
  obtain ⟨rfl, rfl⟩ := List.append_singleton_inj.mp at_spare
  rw [Path.route_child spared] at settled
  exact ⟨start, fits, (settled_snoc.mp settled).1, dir, free, shown⟩

include plain spared in
theorem moved_changed (written : d.write (p.child spare) content = .ok f)
    (moved : f.move (p.child spare) (p.child name) = .ok e) :
    (p.child name).Fits d.start ∧
      Changed new [(goal (p.route d.start) ++ [name], some content),
        (goal (p.route d.start) ++ [spare], none)] d e := by
  obtain ⟨start, _, _, _, free, shown⟩ := write_child spared written
  have there : f.found (goal (p.route d.start) ++ [spare]) = some (some content) := by
    rw [shown, if_pos rfl]
  obtain ⟨still, fits, target_free, moved_to⟩ := move_spec moved
    (by rw [start, Path.goal_child spared]) there
  rw [start, Path.goal_child plain] at target_free moved_to
  rw [start] at fits still
  refine ⟨fits, .two still ?_ free fun loc => ?_⟩
  · rw [shown] at target_free
    split at target_free
    · rename_i same
      rwa [same]
    · exact target_free
  · rw [moved_to, shown]
    split
    · rfl
    · split <;> rfl

include spared in
theorem unmoved_changed (written : d.write (p.child spare) content = .ok f) :
    ∃ e, f.remove (p.child spare) = .ok e ∧
      Changed new [(goal (p.route d.start) ++ [spare], none)] d e := by
  obtain ⟨start, fits, settled, dir, free, shown⟩ := write_child spared written
  have there : f.found (goal (p.route d.start) ++ [spare]) = some (some content) := by
    rw [shown, if_pos rfl]
  have kept : ∀ loc, d.found loc = some none → f.found loc = some none := by
    intro loc is_dir
    rw [shown, if_neg, is_dir]
    rintro rfl
    exact free is_dir
  rw [← start] at fits settled there
  obtain ⟨e, removed⟩ := remove_file spared (settled_mono kept settled) fits there
  refine ⟨e, removed, ?_⟩
  have edited : Changed (fun _ => False) [(goal (p.route f.start) ++ [spare], none)] f e :=
    remove_changed spared removed
  refine .one (edited.start.trans start) free fun loc => ?_
  rw [start] at edited
  by_cases hit : loc = goal (p.route d.start) ++ [spare]
  · rw [if_pos hit]
    exact (edited.edited loc none (by rw [hit, List.lookup_cons_self])).2
  · rw [if_neg hit]
    rcases edited.others loc (lookup_cons_ne _ _ hit) with same | ⟨_, _, none_made⟩
    · rw [same, shown, if_neg hit]
    · exact none_made.elim

/-- How a file is replaced. -/
theorem replace_cases {spare : Path} {r : Except Cause Unit}
    (h : d.replace p spare content = (r, e)) :
    (∃ cause, r = .error cause ∧ e = (d.makeWay p).2) ∨
      ∃ d' f, d.makeWay p = (.ok (), d') ∧ d'.write spare content = .ok f ∧
        ((r = .ok () ∧ f.move spare p = .ok e) ∨
          ∃ cause, r = .error cause ∧
            (f.remove spare = .ok e ∨ (∃ stuck, f.remove spare = .error stuck) ∧ e = f)) := by
  unfold replace at h
  split at h
  · rename_i cause e' failed
    cases h
    exact .inl ⟨cause, rfl, by rw [failed]⟩
  · rename_i d' made
    split at h
    · rename_i cause _
      cases h
      exact .inl ⟨cause, rfl, by rw [made]⟩
    · rename_i f written
      refine .inr ⟨d', f, made, written, ?_⟩
      split at h
      · rename_i moved
        cases h
        exact .inl ⟨rfl, moved⟩
      · rename_i cause _
        split at h
        · rename_i removed
          cases h
          exact .inr ⟨cause, rfl, .inl removed⟩
        · rename_i stuck unremoved
          cases h
          exact .inr ⟨cause, rfl, .inr ⟨⟨stuck, unremoved⟩, rfl⟩⟩

include spared in
/-- A spare file that was written and is not moved can be taken away. -/
theorem replace_child {r : Except Cause Unit}
    (h : d.replace (p.child name) (p.child spare) content = (r, e)) :
    (∃ cause, r = .error cause ∧ e = (d.makeWay (p.child name)).2) ∨
      ∃ d' f, d.makeWay (p.child name) = (.ok (), d') ∧
        d'.write (p.child spare) content = .ok f ∧
          ((r = .ok () ∧ f.move (p.child spare) (p.child name) = .ok e) ∨
            ∃ cause, r = .error cause ∧ f.remove (p.child spare) = .ok e) := by
  rcases replace_cases h with failed | ⟨d', f, made, written, moved | ⟨cause, failed, left⟩⟩
  · exact .inl failed
  · exact .inr ⟨d', f, made, written, .inl moved⟩
  · refine .inr ⟨d', f, made, written, .inr ⟨cause, failed, ?_⟩⟩
    have away : ∃ g, f.remove (p.child spare) = .ok g ∧
        Changed (fun _ => True) [(goal (p.route d'.start) ++ [spare], none)] d' g :=
      unmoved_changed spared written
    obtain ⟨g, removed, _⟩ := away
    rcases left with same | ⟨⟨stuck, unremoved⟩, _⟩
    · exact same
    · rw [removed] at unremoved
      cases unremoved

include plain spared in
/-- The content takes the place of the file, or nothing happens to the files but that the spare file
is gone. -/
theorem replace_changed {r : Except Cause Unit}
    (h : d.replace (p.child name) (p.child spare) content = (r, e)) :
    (∃ cause, r = .error cause ∧
        (Changed (Way (p.child name) d.start (p.child name).turns) [] d e ∨
          Changed (Way (p.child name) d.start (p.child name).turns)
            [(goal (p.route d.start) ++ [spare], none)] d e)) ∨
      (r = .ok () ∧ (p.child name).Fits d.start ∧
        Changed (Way (p.child name) d.start (p.child name).turns)
          [(goal (p.route d.start) ++ [name], some content),
            (goal (p.route d.start) ++ [spare], none)] d e) := by
  have way := makeWay_changed d (p.child name)
  rcases replace_child spared h with ⟨cause, rfl, rfl⟩ | ⟨d', f, made, written, done⟩
  · exact .inl ⟨cause, rfl, .inl way⟩
  · rw [made] at way
    have start : d'.start = d.start := way.start
    rcases done with ⟨rfl, moved⟩ | ⟨cause, rfl, removed⟩
    · obtain ⟨fits, edited⟩ := moved_changed plain spared written moved
      rw [start] at fits edited
      exact .inr ⟨rfl, fits, way.trans edited⟩
    · obtain ⟨g, same, edited⟩ := unmoved_changed spared written
      rw [Except.ok.inj (same.symm.trans removed), start] at edited
      exact .inl ⟨cause, rfl, .inr (way.trans edited)⟩

end Replace

end Disk

end DropLedger
