import DropLedger.Proofs.Disk.Listing

/-! Disks that differ only in what some files hold. Paths lead to the same places on both, or fail
for the same cause, and the other files are read alike. -/
namespace DropLedger

/-- Both fail for the same cause, or both succeed with results that are related. -/
inductive Agree {α β : Type} (R : α → β → Prop) : Except Cause α → Except Cause β → Prop where
  | ok {a : α} {b : β} (related : R a b) : Agree R (.ok a) (.ok b)
  | error (cause : Cause) : Agree R (.error cause) (.error cause)

namespace Agree

variable {α β γ δ : Type} {R : α → β → Prop} {S : γ → δ → Prop} {x : Except Cause α}
  {y : Except Cause β}

theorem bind {f : α → Except Cause γ} {g : β → Except Cause δ} (first : Agree R x y)
    (next : ∀ a b, R a b → Agree S (f a) (g b)) : Agree S (x >>= f) (y >>= g) := by
  cases first with
  | ok related => exact next _ _ related
  | error cause => exact .error cause

theorem cases (h : Agree R x y) :
    (∃ cause, x = .error cause ∧ y = .error cause) ∨ ∃ a b, x = .ok a ∧ y = .ok b ∧ R a b := by
  cases h with
  | ok related => exact .inr ⟨_, _, rfl, rfl, related⟩
  | error cause => exact .inl ⟨cause, rfl, rfl⟩

theorem strengthen {T : α → β → Prop} (h : Agree R x y)
    (more : ∀ a b, x = .ok a → y = .ok b → R a b → T a b) : Agree T x y := by
  cases h with
  | ok related => exact .ok (more _ _ rfl rfl related)
  | error cause => exact .error cause

theorem eq {x y : Except Cause α} (h : Agree (fun a b => b = a) x y) : y = x := by
  cases h with
  | ok same => rw [same]
  | error cause => rfl

end Agree

namespace Disk

/-- Two disks that differ at most in what files hold that are not inside. -/
structure Alike (inside : Location → Prop) (d e : Disk) : Prop where
  start : e.start = d.start
  same : ∀ loc, e.found loc = d.found loc ∨
    (¬inside loc ∧ ∃ a b, d.found loc = some (some a) ∧ e.found loc = some (some b))

def SameKind (n m : Node) : Prop := m.isDir = n.isDir

theorem file_of_sameKind {n m : Option Node} (h : Option.Rel SameKind n m) :
    (∃ content, n = some (.file content)) ↔ ∃ content, m = some (.file content) := by
  cases h with
  | none => simp
  | @some n m kind => cases n <;> cases m <;> simp_all [SameKind, Node.isDir]

/-- Trails to the same place. -/
def Beside (d e : Disk) (t u : Trail) : Prop :=
  d.Holds t ∧ e.Holds u ∧ Trail.location u = Trail.location t

variable {inside : Location → Prop} {d e : Disk} {p : Path}

namespace Alike

theorem kind (alike : Alike inside d e) (loc : Location) :
    (e.found loc).map Option.isSome = (d.found loc).map Option.isSome := by
  rcases alike.same loc with same | ⟨_, a, b, left, right⟩
  · rw [same]
  · rw [left, right]
    rfl

theorem at_inside (alike : Alike inside d e) {loc : Location} (h : inside loc) :
    e.found loc = d.found loc := by
  rcases alike.same loc with same | ⟨outside, _⟩
  · exact same
  · exact absurd h outside

/-- The same put in one place on both sides leaves no new difference. -/
theorem put {d' e' : Disk} {loc : Location} {n : Option (Option Bytes)} (alike : Alike inside d e)
    (start : d'.start = d.start) (start' : e'.start = e.start)
    (left : ∀ other, d'.found other = if other = loc then n else d.found other)
    (right : ∀ other, e'.found other = if other = loc then n else e.found other) :
    Alike inside d' e' := by
  refine ⟨by rw [start, start', alike.start], ?_⟩
  intro other
  rw [left, right]
  split
  · exact .inl rfl
  · exact alike.same other

theorem changed {d' e' : Disk} {edits : List (Location × Option Bytes)} (alike : Alike inside d e)
    (left : Changed (fun _ => False) edits d d') (right : Changed (fun _ => False) edits e e') :
    Alike inside d' e' := by
  have others : ∀ {f f' : Disk} {loc : Location}, Changed (fun _ => False) edits f f' →
      edits.lookup loc = none → f'.found loc = f.found loc := by
    intro f f' loc made away
    rcases made.others loc away with same | ⟨_, _, none_new⟩
    · exact same
    · exact none_new.elim
  refine ⟨by rw [left.start, right.start, alike.start], ?_⟩
  intro loc
  cases edit : edits.lookup loc with
  | some content =>
    rw [(left.edited loc content edit).2, (right.edited loc content edit).2]
    exact .inl rfl
  | none =>
    rw [others left edit, others right edit]
    exact alike.same loc

end Alike

theorem found_of_read {content : Bytes} (h : d.read p = .ok content) :
    d.found (goal (p.route d.start)) = some (some content) := by
  unfold read at h
  obtain ⟨⟨loc, n⟩, located, shown⟩ := bind_eq_ok.mp h
  obtain ⟨_, _, rfl, there⟩ := locate_sound located
  cases n with
  | dir es => cases shown
  | file text =>
    cases shown
    rw [found, there]
    rfl

section Follow

variable (alike : Alike inside d e)
include alike

theorem isDir_alike {loc : Location} {n m : Node} (left : d.look loc = some n)
    (right : e.look loc = some m) : m.isDir = n.isDir := by
  have kind := alike.kind loc
  unfold found at kind
  rw [left, right] at kind
  cases n <;> cases m <;> simp [Node.content?, Node.isDir] at kind ⊢

theorem node_alike {t u : Trail} (beside : Beside d e t u) :
    (e.node u).isDir = (d.node t).isDir := by
  obtain ⟨held, other, same⟩ := beside
  exact isDir_alike alike (look_trail held) (same ▸ look_trail other)

theorem entry_alike {loc : Location} {es fs : List (Bytes × Node)}
    (left : d.look loc = some (.dir es)) (right : e.look loc = some (.dir fs)) (name : Bytes) :
    Option.Rel SameKind (es.lookup name) (fs.lookup name) := by
  have at_left := look_snoc left name
  have at_right := look_snoc right name
  have kind := alike.kind (loc ++ [name])
  rw [found, found, at_left, at_right] at kind
  cases n : es.lookup name with
  | none =>
    cases m : fs.lookup name with
    | none => exact .none
    | some _ =>
      rw [n, m] at kind
      cases kind
  | some _ =>
    cases m : fs.lookup name with
    | none =>
      rw [n, m] at kind
      cases kind
    | some _ => exact .some (isDir_alike alike (at_left.trans n) (at_right.trans m))

/-- Where two trails lead there is a directory on both sides or on neither. -/
theorem node_cases {t u : Trail} (beside : Beside d e t u) :
    (∃ a b, d.node t = .file a ∧ e.node u = .file b) ∨
      ∃ es fs, d.node t = .dir es ∧ e.node u = .dir fs ∧
        ∀ name, Option.Rel SameKind (es.lookup name) (fs.lookup name) := by
  have kind := node_alike alike beside
  obtain ⟨held, other, same⟩ := beside
  have at_left := look_trail held
  have at_right := look_trail other
  rw [same] at at_right
  cases left : d.node t with
  | file a =>
    cases right : e.node u with
    | file b => exact .inl ⟨a, b, rfl, rfl⟩
    | dir fs =>
      rw [left, right] at kind
      cases kind
  | dir es =>
    cases right : e.node u with
    | file b =>
      rw [left, right] at kind
      cases kind
    | dir fs =>
      rw [left] at at_left
      rw [right] at at_right
      exact .inr ⟨es, fs, rfl, rfl, entry_alike alike at_left at_right⟩

theorem enter_alike {t u : Trail} (beside : Beside d e t u) (name : Bytes) :
    Agree (Beside d e) (d.enter t name) (e.enter u name) := by
  -- Both enter or neither does; where they come to is told by the name alone.
  have enters : Agree (fun _ _ => True) (d.enter t name) (e.enter u name) := by
    unfold enter
    rcases node_cases alike beside with ⟨_, _, left, right⟩ | ⟨es, fs, left, right, entries⟩
    · rw [left, right]
      exact .error _
    · have entry := entries name
      rw [left, right]
      dsimp only
      split
      · exact .ok trivial
      split
      · exact .ok trivial
      split
      · exact .error _
      generalize es.lookup name = n at entry ⊢
      generalize fs.lookup name = m at entry ⊢
      cases entry with
      | none => exact .error _
      | some _ => exact .ok trivial
  obtain ⟨held, other, same⟩ := beside
  refine enters.strengthen ?_
  intro v w entered entered' _
  obtain ⟨holds, moved, _⟩ := enter_sound held entered
  obtain ⟨holds', moved', _⟩ := enter_sound other entered'
  exact ⟨holds, holds', by rw [moved, moved', same]⟩

theorem walk_alike {t u : Trail} (beside : Beside d e t u) (names : List Bytes) :
    Agree (Beside d e) (d.walk t names) (e.walk u names) := by
  induction names generalizing t u with
  | nil => exact .ok beside
  | cons name names ih => exact (enter_alike alike beside name).bind fun _ _ => ih

theorem origin_alike (p : Path) : Agree (Beside d e) (d.origin p) (e.origin p) := by
  have top : Beside d e [] [] := ⟨holds_nil d, holds_nil e, rfl⟩
  unfold origin
  split
  · exact .ok top
  · rw [alike.start]
    exact walk_alike alike top d.start

theorem locate_alike (p : Path) :
    Agree (fun r q => q.1 = r.1 ∧ q.2.isDir = r.2.isDir) (d.locate p) (e.locate p) := by
  unfold locate
  cases p.refusal? with
  | some cause => exact .error cause
  | none =>
    dsimp only
    by_cases empty : p.raw.isEmpty = true
    · simp only [empty]
      exact .error _
    · simp only [empty]
      apply (origin_alike alike p).bind
      intro t u beside
      apply (walk_alike alike beside p.names).bind
      intro v w beside
      rw [node_alike alike beside]
      split
      · exact .error _
      · exact .ok ⟨beside.2.2, node_alike alike beside⟩

/-- What is to be written has the same place on both sides, and what is there is of one kind. -/
theorem place_alike (p : Path) :
    Agree (Option.Rel fun r q => q.1 = r.1 ∧ Option.Rel SameKind r.2 q.2)
      (d.place p) (e.place p) := by
  unfold place
  cases p.refusal? with
  | some cause => exact .error cause
  | none =>
    dsimp only
    cases p.names.getLast? with
    | none =>
      dsimp only
      split
      · exact .ok .none
      · exact .error _
    | some name =>
      apply (origin_alike alike p).bind
      intro t u beside
      apply (walk_alike alike beside p.names.dropLast).bind
      intro v w beside
      rcases node_cases alike beside with ⟨_, _, left, right⟩ | ⟨es, fs, left, right, entries⟩
      · rw [left, right]
        exact .error _
      · rw [left, right]
        dsimp only
        split
        · exact .ok .none
        split
        · exact .error _
        exact .ok (.some ⟨by rw [beside.2.2], entries name⟩)

theorem isDir_eq (p : Path) : e.isDir p = d.isDir p := by
  unfold isDir
  rcases (locate_alike alike p).cases with ⟨cause, left, right⟩ | ⟨r, q, left, right, _, kind⟩
  · rw [left, right]
  · rw [left, right]
    exact kind

theorem fileTarget_alike (p : Path) :
    Agree (fun r q => q.1 = r.1 ∧ (inside (goal (p.route d.start)) → q.2 = r.2))
      (d.fileTarget p) (e.fileTarget p) := by
  have targets : Agree (fun r q => q.1 = r.1) (d.fileTarget p) (e.fileTarget p) := by
    apply (place_alike alike p).bind
    intro r q placed
    cases placed with
    | none => exact .error _
    | @some r q related =>
      obtain ⟨loc, n⟩ := r
      obtain ⟨loc', m⟩ := q
      obtain ⟨same, entry⟩ := related
      dsimp only at same entry ⊢
      cases p.slashed with
      | true => cases entry <;> exact .error _
      | false =>
        cases entry with
        | none => exact .ok same
        | @some n m kind =>
          cases n <;> cases m <;> cases kind
          · exact .ok same
          · exact .error _
  refine targets.strengthen ?_
  rintro ⟨loc, old⟩ ⟨_, old'⟩ left right rfl
  obtain ⟨_, _, _, at_goal, _, shown, _⟩ := fileTarget_sound left
  obtain ⟨_, _, _, _, _, shown', _⟩ := fileTarget_sound right
  refine ⟨rfl, ?_⟩
  intro within
  rw [at_goal] at within
  rw [alike.at_inside within, shown] at shown'
  exact (Option.map_injective (Option.some_injective _) shown').symm

theorem read_alike (within : inside (goal (p.route d.start))) : e.read p = d.read p := by
  have reads : Agree (fun _ _ => True) (d.read p) (e.read p) := by
    apply (locate_alike alike p).bind
    rintro ⟨loc, n⟩ ⟨loc', m⟩ ⟨_, kind⟩
    cases n <;> cases m <;> cases kind
    · exact .ok trivial
    · exact .error _
  refine (reads.strengthen ?_).eq
  intro content other left right _
  have shown := found_of_read right
  rw [alike.start, alike.at_inside within, found_of_read left] at shown
  cases shown
  rfl

/-- Which files a directory has is told without what they hold, wherever it is. -/
theorem fileNames_alike (p : Path) : e.fileNames p = d.fileNames p := by
  apply fileNames_ext
  intro name
  rw [mem_fileNames, mem_fileNames]
  rcases (locate_alike alike p).cases with
    ⟨cause, left, right⟩ | ⟨⟨loc, n⟩, ⟨_, m⟩, left, right, rfl, kind⟩
  · simp [left, right]
  · cases n <;> cases m <;> cases kind
    · simp [left, right]
    · rename_i es fs
      have entry := entry_alike alike (locate_sound left).2.2.2 (locate_sound right).2.2.2
        (Utf8.ofString name)
      have files := file_of_sameKind entry
      constructor
      · rintro ⟨_, _, content, located, shown, taken⟩
        cases right.symm.trans located
        obtain ⟨old, there⟩ := files.mpr ⟨content, shown⟩
        exact ⟨_, _, old, left, there, taken⟩
      · rintro ⟨_, _, content, located, shown, taken⟩
        cases left.symm.trans located
        obtain ⟨old, there⟩ := files.mp ⟨content, shown⟩
        exact ⟨_, _, old, right, there, taken⟩

end Follow

end Disk

end DropLedger
