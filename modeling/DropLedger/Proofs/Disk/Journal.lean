import DropLedger.Proofs.Disk.Writing

/-! The single steps that writing is made of, and which files they work on. Every step counts, also
one that later steps undo. -/
namespace DropLedger

/-- The files that a step works on. -/
def Change.files : Change → List Location
  | .makeDir _ => []
  | .clear loc => [loc]
  | .extend loc _ => [loc]
  | .move source target => [source, target]
  | .remove loc => [loc]

namespace Disk

/-- The disk after steps, the latest of which comes first. -/
def replay (d : Disk) (steps : List Change) : Disk := steps.foldr (fun c d => d.commit c) d

/-- What has been done from one disk to the other are steps that work on files inside. -/
def Wrote (inside : Location → Prop) (d e : Disk) : Prop :=
  ∃ steps, e = d.replay steps ∧ ∀ c ∈ steps, ∀ loc ∈ c.files, inside loc

theorem replay_append (d : Disk) (late early : List Change) :
    d.replay (late ++ early) = (d.replay early).replay late := List.foldr_append

theorem replay_start (d : Disk) (steps : List Change) : (d.replay steps).start = d.start := by
  induction steps with
  | nil => rfl
  | cons c steps ih => exact ih

variable {inside : Location → Prop} {d e f : Disk} {p q : Path}

namespace Wrote

theorem refl : Wrote inside d d := ⟨[], rfl, nofun⟩

theorem start (h : Wrote inside d e) : e.start = d.start := by
  obtain ⟨steps, rfl, _⟩ := h
  exact replay_start d steps

theorem mono {other : Location → Prop} (le : ∀ loc, inside loc → other loc)
    (h : Wrote inside d e) : Wrote other d e := by
  obtain ⟨steps, whole, within⟩ := h
  exact ⟨steps, whole, fun c member loc file => le loc (within c member loc file)⟩

theorem trans (first : Wrote inside d e) (second : Wrote inside e f) : Wrote inside d f := by
  obtain ⟨early, rfl, within⟩ := first
  obtain ⟨late, rfl, within'⟩ := second
  refine ⟨late ++ early, (replay_append d late early).symm, ?_⟩
  intro c member
  rcases List.mem_append.mp member with after | before
  · exact within' c after
  · exact within c before

theorem commit {c : Change} (h : ∀ loc ∈ c.files, inside loc) : Wrote inside d (d.commit c) := by
  refine ⟨[c], rfl, ?_⟩
  intro other member
  rw [List.mem_singleton.mp member]
  exact h

end Wrote

section Makes

/-- Steps that make directories, each in one that is there. -/
inductive Makes (d : Disk) : List Change → Prop where
  | nothing : Makes d []
  | next {early : List Change} {up : Location} {name : Bytes} (before : Makes d early)
      (way : (d.replay early).found up = some none)
      (free : (d.replay early).found (up ++ [name]) = none) :
      Makes d (.makeDir (up ++ [name]) :: early)

variable {steps : List Change}

theorem Makes.changed (h : Makes d steps) : Changed (fun _ => True) [] d (d.replay steps) := by
  induction h with
  | nothing => exact .refl
  | @next early up name _ way free ih =>
    refine ih.trans ⟨rfl, nofun, ?_⟩
    intro loc _
    have shown : (d.replay (.makeDir (up ++ [name]) :: early)).found loc = _ :=
      found_makeDir way free loc
    rw [shown]
    split
    · rename_i here
      exact .inr ⟨by rw [here, free], rfl, trivial⟩
    · exact .inl rfl

theorem Makes.append {late early : List Change} (first : Makes d early)
    (second : Makes (d.replay early) late) : Makes d (late ++ early) := by
  induction second with
  | nothing => exact first
  | next _ way free ih =>
    rw [← replay_append] at way free
    exact .next ih way free

theorem Makes.made (h : Makes d steps) : ∀ c ∈ steps, ∃ loc, c = .makeDir loc := by
  induction h with
  | nothing => nofun
  | next _ _ _ ih => exact List.forall_mem_cons.mpr ⟨⟨_, rfl⟩, ih⟩

theorem makeDir_makes (h : d.makeDir p = .ok e) : ∃ steps, e = d.replay steps ∧ Makes d steps := by
  unfold makeDir at h
  obtain ⟨placed, at_place, h⟩ := bind_eq_ok.mp h
  split at h
  · cases h
    obtain ⟨up, name, rfl, _, way, free, _⟩ := place_sound at_place
    refine ⟨[.makeDir (up ++ [name])], rfl, .next .nothing way ?_⟩
    rw [replay, List.foldr_nil, found, free]
    rfl
  · cases h

theorem settle_makes {made : Except Cause Disk} (q : Path)
    (after : ∀ f, made = .ok f → ∃ steps, f = d.replay steps ∧ Makes d steps) :
    ∃ steps, (d.settle q made).2 = d.replay steps ∧ Makes d steps := by
  unfold settle
  split
  · rename_i f
    exact after f rfl
  · split <;> exact ⟨[], rfl, .nothing⟩

theorem makeChain_makes (d : Disk) (p : Path) (lengths : List Nat) :
    ∃ steps, (d.makeChain p lengths).2 = d.replay steps ∧ Makes d steps := by
  induction lengths generalizing d with
  | nil => exact ⟨[], rfl, .nothing⟩
  | cons length up ih =>
    unfold makeChain
    split
    · obtain ⟨early, whole, first⟩ := ih d
      split
      · rename_i shown
        rw [shown] at whole
        exact ⟨early, whole, first⟩
      · rename_i d' shown
        rw [shown] at whole
        obtain rfl : d' = d.replay early := whole
        obtain ⟨late, settled, second⟩ := settle_makes (p.upTo length) fun _ => makeDir_makes
        exact ⟨late ++ early, by rw [replay_append, settled], first.append second⟩
    · exact settle_makes _ fun _ => makeDir_makes

theorem Makes.wrote (h : Makes d steps) : Wrote inside d (d.replay steps) := by
  refine ⟨steps, rfl, fun c member => ?_⟩
  obtain ⟨loc, rfl⟩ := h.made c member
  exact nofun

/-- Making directories works on no file. -/
theorem makeChain_wrote (d : Disk) (p : Path) (lengths : List Nat) :
    Wrote inside d (d.makeChain p lengths).2 := by
  obtain ⟨steps, whole, makes⟩ := makeChain_makes d p lengths
  rw [whole]
  exact makes.wrote

end Makes

theorem makeWay_wrote (d : Disk) (p : Path) : Wrote inside d (d.makeWay p).2 :=
  makeChain_wrote d p p.turns

theorem makeDirs_wrote (d : Disk) (p : Path) : Wrote inside d (d.makeDirs p).2 := by
  unfold makeDirs
  split
  · exact .refl
  · exact makeChain_wrote d p _

theorem write_steps {content : Bytes} (h : d.write p content = .ok e) :
    e = d.replay [.extend (goal (p.route d.start)) content, .clear (goal (p.route d.start))] := by
  unfold write clearFile at h
  obtain ⟨⟨loc, f⟩, cleared, h⟩ := bind_eq_ok.mp h
  obtain ⟨⟨target, old⟩, targeted, cleared⟩ := bind_eq_ok.mp cleared
  obtain ⟨_, _, _, at_goal, _⟩ := fileTarget_sound targeted
  cases cleared
  cases h
  rw [at_goal]
  rfl

theorem move_step {q : Path} (h : d.move p q = .ok e) :
    e = d.commit (.move (goal (p.route d.start)) (goal (q.route d.start))) := by
  unfold move at h
  obtain ⟨⟨old, n⟩, located, h⟩ := bind_eq_ok.mp h
  obtain ⟨⟨new, kind⟩, targeted, h⟩ := bind_eq_ok.mp h
  obtain ⟨_, _, at_source, _⟩ := locate_sound located
  obtain ⟨_, _, _, at_goal, _⟩ := fileTarget_sound targeted
  cases h
  rw [at_source, at_goal]

theorem remove_step (h : d.remove p = .ok e) :
    e = d.commit (.remove (goal (p.route d.start))) := by
  unfold remove at h
  obtain ⟨⟨loc, n⟩, located, h⟩ := bind_eq_ok.mp h
  obtain ⟨_, _, at_goal, _⟩ := locate_sound located
  cases n with
  | dir es => cases h
  | file content =>
    cases h
    rw [at_goal]

section Files

variable (within : inside (goal (p.route d.start)))
include within

theorem openFile_wrote {loc : Location} {content : Bytes}
    (h : d.openFile p = .ok (loc, content, e)) : inside loc ∧ Wrote inside d e := by
  unfold openFile at h
  obtain ⟨⟨target, old⟩, targeted, h⟩ := bind_eq_ok.mp h
  obtain ⟨_, _, _, at_goal, _⟩ := fileTarget_sound targeted
  rw [at_goal] at within
  cases old with
  | some text =>
    cases h
    exact ⟨within, .refl⟩
  | none =>
    cases h
    exact ⟨within, .commit (by simpa [Change.files])⟩

theorem appendLine_wrote (line : Bytes) : Wrote inside d (d.appendLine p line).2 := by
  have way : Wrote inside d (d.makeWay p).2 := makeWay_wrote d p
  cases done : d.appendLine p line with
  | mk r e =>
    rcases appendLine_cases done with ⟨_, _, rfl⟩ | ⟨d', _, _, _, made, opened, _, rfl⟩
    · exact way
    · rw [made] at way
      rw [← way.start] at within
      obtain ⟨there, before⟩ := openFile_wrote within opened
      exact (way.trans before).trans (.commit (by simpa [Change.files]))

theorem write_wrote {content : Bytes} (h : d.write p content = .ok e) : Wrote inside d e := by
  rw [write_steps h]
  exact .trans (.commit (by simpa [Change.files])) (.commit (by simpa [Change.files]))

theorem remove_wrote (h : d.remove p = .ok e) : Wrote inside d e := by
  rw [remove_step h]
  exact .commit (by simpa [Change.files])

theorem move_wrote (within' : inside (goal (q.route d.start))) (h : d.move p q = .ok e) :
    Wrote inside d e := by
  rw [move_step h]
  exact .commit (by simp [Change.files, within, within'])

theorem replace_wrote {spare : Path} (spared : inside (goal (spare.route d.start)))
    (content : Bytes) : Wrote inside d (d.replace p spare content).2 := by
  have way : Wrote inside d (d.makeWay p).2 := makeWay_wrote d p
  cases done : d.replace p spare content with
  | mk r e =>
    rcases replace_cases done with ⟨_, _, rfl⟩ | ⟨d', f, made, written, last⟩
    · exact way
    · rw [made] at way
      rw [← way.start] at within spared
      have wrote := write_wrote spared written
      rw [← wrote.start] at within spared
      have before := way.trans wrote
      rcases last with ⟨_, moved⟩ | ⟨_, _, removed | ⟨_, rfl⟩⟩
      · exact before.trans (move_wrote spared within moved)
      · exact before.trans (remove_wrote spared removed)
      · exact before

end Files

end Disk

end DropLedger
