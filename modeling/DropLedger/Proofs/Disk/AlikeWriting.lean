import DropLedger.Proofs.Disk.Alike
import DropLedger.Proofs.Disk.Writing

/-! Writing on disks that differ only in what some files hold. What works on the other files comes
to the same on both and leaves no new difference. -/
namespace DropLedger

namespace Disk

/-- Both come to the same, and the disks are as much alike after it. -/
def Both (inside : Location → Prop) (x y : Except Cause Unit × Disk) : Prop :=
  y.1 = x.1 ∧ Alike inside x.2 y.2

theorem Both.cases {inside : Location → Prop} {x y : Except Cause Unit × Disk}
    (h : Both inside x y) :
    (∃ cause d e, x = (.error cause, d) ∧ y = (.error cause, e) ∧ Alike inside d e) ∨
      ∃ d e, x = (.ok (), d) ∧ y = (.ok (), e) ∧ Alike inside d e := by
  obtain ⟨r, d⟩ := x
  obtain ⟨r', e⟩ := y
  obtain ⟨same, alike⟩ := h
  cases same
  cases r with
  | error cause => exact .inl ⟨cause, d, e, rfl, rfl, alike⟩
  | ok _ => exact .inr ⟨d, e, rfl, rfl, alike⟩

variable {inside : Location → Prop} {d e : Disk} {p : Path}

theorem makeDir_found (h : d.makeDir p = .ok e) :
    e.start = d.start ∧ ∀ loc, e.found loc =
      if loc = goal (p.route d.start) then some none else d.found loc := by
  unfold makeDir at h
  obtain ⟨placed, at_place, h⟩ := bind_eq_ok.mp h
  split at h
  · rename_i loc
    cases h
    obtain ⟨up, name, rfl, at_goal, dir, free, _⟩ := place_sound at_place
    rw [at_goal]
    refine ⟨rfl, found_makeDir dir ?_⟩
    rw [found, free]
    rfl
  · cases h

section Steps

variable (alike : Alike inside d e)
include alike

theorem makeDir_alike (p : Path) : Agree (Alike inside) (d.makeDir p) (e.makeDir p) := by
  have makes : Agree (fun _ _ => True) (d.makeDir p) (e.makeDir p) := by
    apply (place_alike alike p).bind
    intro r q placed
    cases placed with
    | none => exact .error _
    | @some r q related =>
      obtain ⟨loc, n⟩ := r
      obtain ⟨loc', m⟩ := q
      cases related.2 with
      | none => exact .ok trivial
      | some _ => exact .error _
  refine makes.strengthen ?_
  intro f g left right _
  obtain ⟨start, shown⟩ := makeDir_found left
  obtain ⟨start', shown'⟩ := makeDir_found right
  rw [alike.start] at shown'
  exact alike.put start start' shown shown'

theorem settle_alike {made made' : Except Cause Disk} (q : Path)
    (makes : Agree (Alike inside) made made') :
    Both inside (d.settle q made) (e.settle q made') := by
  unfold settle
  cases makes with
  | ok made => exact ⟨rfl, made⟩
  | error cause =>
    dsimp only
    rw [isDir_eq alike]
    split
    · exact ⟨rfl, alike⟩
    · exact ⟨rfl, alike⟩

omit alike in
theorem makeChain_alike (alike : Alike inside d e) (p : Path) (lengths : List Nat) :
    Both inside (d.makeChain p lengths) (e.makeChain p lengths) := by
  induction lengths generalizing d e with
  | nil => exact ⟨rfl, alike⟩
  | cons length up ih =>
    have settles := settle_alike alike (p.upTo length) (makeDir_alike alike (p.upTo length))
    unfold makeChain
    rcases (makeDir_alike alike (p.upTo length)).cases with
      ⟨cause, left, right⟩ | ⟨f, g, left, right, _⟩
    · rw [left, right] at settles ⊢
      cases cause with
      | noEntry =>
        -- The directory is tried again, on disks that the directories above it have left alike.
        dsimp only
        rcases (ih alike).cases with
          ⟨cause, d', e', left, right, after⟩ | ⟨d', e', left, right, after⟩
        · rw [left, right]
          exact ⟨rfl, after⟩
        · rw [left, right]
          exact settle_alike after _ (makeDir_alike after _)
      | _ => exact settles
    · rw [left, right] at settles ⊢
      exact settles

theorem makeWay_alike (p : Path) : Both inside (d.makeWay p) (e.makeWay p) :=
  makeChain_alike alike p p.turns

theorem makeDirs_alike (p : Path) : Both inside (d.makeDirs p) (e.makeDirs p) := by
  unfold makeDirs
  split
  · exact ⟨rfl, alike⟩
  · exact makeChain_alike alike p _

theorem openFile_alike (within : inside (goal (p.route d.start))) :
    Agree (fun r q => q.1 = r.1 ∧ q.2.1 = r.2.1) (d.openFile p) (e.openFile p) := by
  apply (fileTarget_alike alike p).bind
  rintro ⟨loc, old⟩ ⟨loc', old'⟩ ⟨same, content⟩
  dsimp only at same content
  rw [same, content within]
  cases old with
  | none => exact .ok ⟨rfl, rfl⟩
  | some _ => exact .ok ⟨rfl, rfl⟩

theorem write_alike (p : Path) (content : Bytes) :
    Agree (Alike inside) (d.write p content) (e.write p content) := by
  have writes : Agree (fun _ _ => True) (d.write p content) (e.write p content) := by
    unfold write clearFile
    refine Agree.bind (R := fun _ _ => True) ?_ fun _ _ _ => .ok trivial
    exact (fileTarget_alike alike p).bind fun _ _ _ => .ok trivial
  refine writes.strengthen ?_
  intro f g left right _
  obtain ⟨start, up, name, at_goal, _, _, _, _, shown⟩ := write_spec left
  obtain ⟨start', up', name', at_goal', _, _, _, _, shown'⟩ := write_spec right
  rw [← at_goal] at shown
  rw [← at_goal', alike.start] at shown'
  exact alike.put start start' shown shown'

theorem move_alike (p q : Path) : Agree (fun _ _ => True) (d.move p q) (e.move p q) := by
  apply (locate_alike alike p).bind
  intro _ _ _
  apply (fileTarget_alike alike q).bind
  intro _ _ _
  exact .ok trivial

theorem appendLine_alike (line : Bytes) (within : inside (goal (p.route d.start))) :
    Both inside (d.appendLine p line) (e.appendLine p line) := by
  have start := (makeWay_changed d p).start
  unfold appendLine
  rcases (makeWay_alike alike p).cases with
    ⟨cause, d', e', left, right, after⟩ | ⟨d', e', left, right, after⟩
  · rw [left, right]
    exact ⟨rfl, after⟩
  · rw [left] at start
    rw [left, right]
    dsimp only at start ⊢
    rw [← start] at within
    rcases (openFile_alike after within).cases with
      ⟨cause, opened, opened'⟩ | ⟨⟨loc, content, f⟩, ⟨_, _, g⟩, opened, opened', same, text⟩
    · rw [opened, opened']
      exact ⟨rfl, after⟩
    · cases same
      cases text
      have edited : Changed (fun _ => False) _ d' _ :=
        (openFile_extended opened (freshLine content line)).2.2.2
      have edited' : Changed (fun _ => False) _ e' _ :=
        (openFile_extended opened' (freshLine content line)).2.2.2
      rw [opened, opened']
      exact ⟨rfl, after.changed edited edited'⟩

section Child

variable {name spare : Bytes} (plain : PlainName name) (spared : PlainName spare)
include plain

theorem remove_alike :
    Agree (Alike inside) (d.remove (p.child name)) (e.remove (p.child name)) := by
  have removes : Agree (fun _ _ => True) (d.remove (p.child name)) (e.remove (p.child name)) := by
    apply (locate_alike alike (p.child name)).bind
    rintro ⟨loc, n⟩ ⟨loc', m⟩ ⟨_, kind⟩
    cases n <;> cases m <;> cases kind
    · exact .ok trivial
    · exact .error _
  refine removes.strengthen ?_
  intro f g left right _
  have edited : Changed (fun _ => False) _ e g := remove_changed plain right
  rw [alike.start] at edited
  exact alike.changed (remove_changed plain left) edited

include spared in
theorem replace_alike (content : Bytes) :
    Both inside (d.replace (p.child name) (p.child spare) content)
      (e.replace (p.child name) (p.child spare) content) := by
  unfold replace
  rcases (makeWay_alike alike (p.child name)).cases with
    ⟨cause, d', e', left, right, after⟩ | ⟨d', e', left, right, after⟩
  · rw [left, right]
    exact ⟨rfl, after⟩
  · rw [left, right]
    dsimp only
    rcases (write_alike after (p.child spare) content).cases with
      ⟨cause, wrote, wrote'⟩ | ⟨f, g, wrote, wrote', written⟩
    · rw [wrote, wrote']
      exact ⟨rfl, after⟩
    · rw [wrote, wrote']
      dsimp only
      rcases (move_alike written (p.child spare) (p.child name)).cases with
        ⟨cause, moved, moved'⟩ | ⟨u, v, moved, moved', _⟩
      -- The spare file has just been written on both sides, so it can be taken away on both.
      · obtain ⟨u, removed, edited⟩ := unmoved_changed spared wrote
        obtain ⟨v, removed', edited'⟩ := unmoved_changed spared wrote'
        rw [after.start] at edited'
        rw [moved, moved']
        dsimp only
        rw [removed, removed']
        exact ⟨rfl, after.changed edited edited'⟩
      · have edited : Changed (fun _ => False) _ d' u :=
          (moved_changed plain spared wrote moved).2
        have edited' : Changed (fun _ => False) _ e' v :=
          (moved_changed plain spared wrote' moved').2
        rw [after.start] at edited'
        rw [moved, moved']
        exact ⟨rfl, after.changed edited edited'⟩

end Child

end Steps

end Disk

end DropLedger
