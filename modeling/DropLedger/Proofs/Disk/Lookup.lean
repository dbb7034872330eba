import DropLedger.Disk.Operations
import DropLedger.Proofs.Disk.Path

/-! What the disk tells of a path. A path that fits and whose way is settled stands for a location,
and the answers are told by what is found there. -/
namespace DropLedger

/-- The disk does not refuse the path for how it is written. -/
def Path.Fits (p : Path) (start : Location) : Prop := p.refusal? = none ∧ Short (p.route start)

/-- The beginning of a path that is not refused is not refused. -/
theorem Path.taken_begin {p q : Path} (inside : q.raw <+: p.raw) (taken : p.refusal? = none) :
    q.refusal? = none := by
  obtain ⟨more, whole⟩ := inside
  unfold Path.refusal? at taken ⊢
  rw [← whole] at taken
  split at taken
  · cases taken
  · rename_i zero
    split at taken
    · cases taken
    · rename_i limit
      simp only [List.contains_eq_mem, List.mem_append, decide_eq_true_eq, not_or] at zero
      rw [List.length_append] at limit
      rw [if_neg (by simpa using zero.1), if_neg (by omega)]

theorem Path.fits_parent {p : Path} {name : Bytes} {start : Location} (plain : PlainName name)
    (h : (p.child name).Fits start) : p.Fits start := by
  obtain ⟨taken, short⟩ := h
  rw [Path.route_child plain] at short
  exact ⟨Path.taken_begin (Path.child_begins p name) taken, (short_append.mp short).1⟩

namespace Disk

variable {d : Disk} {p : Path} {loc : Location}

/-- What is read of a path; nothing if it cannot be read. -/
def textOf (d : Disk) (p : Path) : Bytes :=
  match d.read p with
  | .ok content => content
  | .error _ => []

theorem walk_origin (d : Disk) (p : Path) (names : List Bytes) :
    (d.origin p >>= fun t => d.walk t names) =
      d.walk [] ((if p.absolute then [] else d.start) ++ names) := by
  unfold origin
  split
  · rfl
  · rw [walk_append]

theorem walk_route (d : Disk) (p : Path) :
    (d.origin p >>= fun t => d.walk t p.names) = d.walk [] (p.route d.start) := by
  rw [walk_origin, Path.route]
  split <;> rfl

theorem locate_eq (named : p.raw ≠ []) (taken : p.refusal? = none) :
    d.locate p = d.walk [] (p.route d.start) >>= fun t =>
      if p.slashed && !(d.node t).isDir then .error .notDirectory
      else .ok (t.location, d.node t) := by
  have going : p.raw.isEmpty = false := by simpa using named
  rw [← walk_route]
  unfold locate
  rw [taken, going]
  cases d.origin p with
  | error e => rfl
  | ok t =>
    change (d.walk t p.names >>= _) = (d.walk t p.names >>= _)
    rfl

theorem locate_taken {r : Location × Node} (h : d.locate p = .ok r) :
    p.raw ≠ [] ∧ p.refusal? = none := by
  unfold locate at h
  cases refused : p.refusal? with
  | some cause =>
    rw [refused] at h
    cases h
  | none =>
    refine ⟨fun empty => ?_, rfl⟩
    rw [refused, empty] at h
    cases h

theorem locate_sound {n : Node} (h : d.locate p = .ok (loc, n)) :
    p.Fits d.start ∧ d.Settled (p.route d.start) ∧ loc = goal (p.route d.start) ∧
      d.look loc = some n := by
  obtain ⟨named, taken⟩ := locate_taken h
  rw [locate_eq named taken] at h
  obtain ⟨t, walked, shown⟩ := bind_eq_ok.mp h
  obtain ⟨held, at_goal, short, settled⟩ := walk_sound walked
  split at shown
  · cases shown
  · cases shown
    exact ⟨⟨taken, short⟩, settled, at_goal, look_trail held⟩

theorem locate_dir (named : p.raw ≠ []) (fits : p.Fits d.start)
    (settled : d.Settled (p.route d.start))
    (dir : d.found (goal (p.route d.start)) = some none) :
    ∃ es, d.locate p = .ok (goal (p.route d.start), .dir es) := by
  obtain ⟨t, walked⟩ := walk_complete settled fits.2 dir
  obtain ⟨held, at_goal, _⟩ := walk_sound walked
  obtain ⟨es, entries⟩ := look_of_dir dir
  have node : d.node t = .dir es := by
    rw [← at_goal, look_trail held] at entries
    exact Option.some.inj entries
  refine ⟨es, ?_⟩
  rw [locate_eq named fits.1, walked, ← at_goal]
  change (if _ then _ else _) = _
  rw [node]
  simp [Node.isDir]

/-- What stands under the last name of a path is what the path names. -/
theorem locate_last {names : List Bytes} {name : Bytes} {n : Node}
    (last : p.route d.start = names ++ [name]) (named : p.raw ≠ []) (bare : p.slashed = false)
    (stays : name ≠ here) (leaves : name ≠ above) (settled : d.Settled names)
    (fits : p.Fits d.start) (there : d.look (goal names ++ [name]) = some n) :
    d.locate p = .ok (goal names ++ [name], n) := by
  obtain ⟨taken, short⟩ := fits
  rw [last] at short
  obtain ⟨first, limit⟩ := short_append.mp short
  have shown : d.found (goal names ++ [name]) ≠ none := by simp [found, there]
  have dir := dir_of_found shown
  obtain ⟨t, walked⟩ := walk_complete settled first dir
  obtain ⟨held, at_goal, _⟩ := walk_sound walked
  obtain ⟨u, entered⟩ := enter_complete held (at_goal ▸ dir) (short_singleton.mp limit)
    (fun _ _ => at_goal ▸ shown)
  obtain ⟨holds, moved, _⟩ := enter_sound held entered
  rw [at_goal, follow_plain stays leaves] at moved
  have node : d.node u = n := by
    rw [← moved, look_trail holds] at there
    exact Option.some.inj there
  rw [locate_eq named taken, last, walk_snoc, walked]
  change (d.enter t name >>= _) = _
  rw [entered, ← moved, ← node]
  simp [bind, Except.bind, bare]

section Child

variable {name : Bytes} (plain : PlainName name)
include plain

theorem locate_child {n : Node} (settled : d.Settled (p.route d.start))
    (fits : (p.child name).Fits d.start)
    (there : d.look (goal (p.route d.start) ++ [name]) = some n) :
    d.locate (p.child name) = .ok (goal (p.route d.start) ++ [name], n) :=
  locate_last (Path.route_child plain d.start) (Path.child_ne_nil plain)
    (Path.slashed_child plain) plain.here plain.above settled fits there

theorem read_child {content : Bytes} (settled : d.Settled (p.route d.start)) :
    d.read (p.child name) = .ok content ↔
      (p.child name).Fits d.start ∧
        d.found (goal (p.route d.start) ++ [name]) = some (some content) := by
  unfold read
  constructor
  · intro h
    obtain ⟨⟨loc, n⟩, located, shown⟩ := bind_eq_ok.mp h
    obtain ⟨fits, _, at_goal, there⟩ := locate_sound located
    rw [Path.goal_child plain] at at_goal
    cases n with
    | dir es => cases shown
    | file text =>
      cases shown
      exact ⟨fits, by rw [← at_goal, found, there]; rfl⟩
  · rintro ⟨fits, there⟩
    rw [locate_child plain settled fits (look_of_file there)]
    rfl

theorem settled_of_read {content : Bytes} (h : d.read (p.child name) = .ok content) :
    d.Settled (p.route d.start) := by
  unfold read at h
  obtain ⟨⟨loc, n⟩, located, _⟩ := bind_eq_ok.mp h
  have settled := (locate_sound located).2.1
  rw [Path.route_child plain] at settled
  exact (settled_snoc.mp settled).1

/-- What can be read of a path is what the file at its location holds. -/
theorem textOf_child (settled : d.Settled (p.route d.start)) (fits : (p.child name).Fits d.start) :
    d.textOf (p.child name) = (d.fileAt (goal (p.route d.start) ++ [name])).getD [] := by
  unfold textOf
  cases readable : d.read (p.child name) with
  | ok content => rw [fileAt, ((read_child plain settled).mp readable).2]; rfl
  | error cause =>
    cases held : d.fileAt (goal (p.route d.start) ++ [name]) with
    | none => rfl
    | some content =>
      rw [(read_child plain settled).mpr ⟨fits, fileAt_eq_some.mp held⟩] at readable
      cases readable

theorem textOf_unfit (settled : d.Settled (p.route d.start))
    (unfit : ¬(p.child name).Fits d.start) : d.textOf (p.child name) = [] := by
  unfold textOf
  split
  · rename_i content readable
    exact absurd ((read_child plain settled).mp readable).1 unfit
  · rfl

end Child

theorem route_snoc {name : Bytes} {before : List Bytes} (h : p.names = before ++ [name]) :
    p.route d.start = (if p.absolute then [] else d.start) ++ before ++ [name] := by
  unfold Path.route
  split
  · simp [h]
  · rw [h, List.append_assoc]

/-- The place of what a path names is told at the end of the way to it. -/
theorem place_last {before : List Bytes} {name : Bytes} (taken : p.refusal? = none)
    (names : p.names = before ++ [name]) :
    d.place p = d.walk [] ((if p.absolute then [] else d.start) ++ before) >>= fun t =>
      match d.node t with
      | .file _ => .error .notDirectory
      | .dir es =>
        if name = here || name = above then .ok none
        else if nameLimit < name.length then .error .nameTooLong
        else .ok (some (t.location ++ [name], es.lookup name)) := by
  rw [← walk_origin]
  unfold place
  rw [taken, names, List.getLast?_concat, List.dropLast_concat]
  cases d.origin p with
  | error cause => rfl
  | ok t =>
    change (d.walk t before >>= _) = (d.walk t before >>= _)
    rfl

theorem place_walked {n : Option Node} (h : d.place p = .ok (some (loc, n))) :
    p.refusal? = none ∧ ∃ before name t es, p.names = before ++ [name] ∧
      d.walk [] ((if p.absolute then [] else d.start) ++ before) = .ok t ∧ d.node t = .dir es ∧
        name ≠ here ∧ name ≠ above ∧ name.length ≤ nameLimit ∧
          loc = t.location ++ [name] ∧ es.lookup name = n := by
  have taken : p.refusal? = none := by
    unfold place at h
    cases refused : p.refusal? with
    | some cause =>
      rw [refused] at h
      cases h
    | none => rfl
  refine ⟨taken, ?_⟩
  cases last : p.names.getLast? with
  | none =>
    unfold place at h
    rw [taken, last] at h
    dsimp only at h
    split at h <;> cases h
  | some name =>
    obtain ⟨before, names⟩ := List.getLast?_eq_some_iff.mp last
    rw [place_last taken names] at h
    obtain ⟨t, walked, h⟩ := bind_eq_ok.mp h
    split at h
    · cases h
    · rename_i es node
      split at h
      · cases h
      · rename_i leads
        simp only [Bool.or_eq_true, decide_eq_true_eq, not_or] at leads
        split at h
        · cases h
        · rename_i limit
          cases h
          exact ⟨before, name, t, es, names, walked, node, leads.1, leads.2, by omega, rfl, rfl⟩

/-- What is to be written has a name of its own at the end of the path. -/
theorem fileTarget_named {content : Option Bytes} (h : d.fileTarget p = .ok (loc, content)) :
    p.raw ≠ [] ∧ p.slashed = false ∧
      ∃ names name, p.route d.start = names ++ [name] ∧ name ≠ here ∧ name ≠ above := by
  unfold fileTarget at h
  obtain ⟨placed, at_place, h⟩ := bind_eq_ok.mp h
  cases placed with
  | none => cases h
  | some entry =>
    obtain ⟨_, before, name, _, _, names, _, _, stays, leaves, _⟩ := place_walked at_place
    refine ⟨?_, ?_, _, name, route_snoc names, stays, leaves⟩
    · intro empty
      have none : p.names = [] := by
        rw [Path.names, empty]
        rfl
      simp [none] at names
    · cases slashed : p.slashed with
      | false => rfl
      | true =>
        rw [slashed] at h
        cases h

/-- The place of what is to be written is in a directory that is there. -/
theorem place_sound {n : Option Node} (h : d.place p = .ok (some (loc, n))) :
    ∃ up name, loc = up ++ [name] ∧ goal (p.route d.start) = loc ∧ d.found up = some none ∧
      d.look loc = n ∧ p.Fits d.start ∧ d.Settled (p.route d.start) := by
  obtain ⟨taken, before, name, t, es, names, walked, node, stays, leaves, limit, rfl, rfl⟩ :=
    place_walked h
  obtain ⟨held, at_goal, short, settled⟩ := walk_sound walked
  have dir : d.look t.location = some (.dir es) := node ▸ look_trail held
  refine ⟨t.location, name, rfl, ?_, ?_, look_snoc dir name, ⟨taken, ?_⟩, ?_⟩
  · rw [route_snoc names, goal_snoc, follow_plain stays leaves, at_goal]
  · rw [found, dir]
    rfl
  · rw [route_snoc names]
    exact short_append.mpr ⟨short, short_singleton.mpr limit⟩
  · rw [route_snoc names]
    exact settled_snoc.mpr ⟨settled, fun out => absurd out leaves⟩

theorem fileTarget_sound {content : Option Bytes} (h : d.fileTarget p = .ok (loc, content)) :
    ∃ up name, loc = up ++ [name] ∧ goal (p.route d.start) = loc ∧ d.found up = some none ∧
      d.found loc = content.map some ∧ p.Fits d.start ∧ d.Settled (p.route d.start) := by
  unfold fileTarget at h
  obtain ⟨placed, at_place, h⟩ := bind_eq_ok.mp h
  cases placed with
  | none => cases h
  | some entry =>
    obtain ⟨other, n⟩ := entry
    obtain ⟨up, name, whole, at_goal, dir, there, fits, settled⟩ := place_sound at_place
    have target : other = loc ∧ n.map Node.content? = content.map some := by
      revert h
      simp only []
      split
      · intro h
        cases h
        exact ⟨rfl, rfl⟩
      · intro h
        cases h
        exact ⟨rfl, rfl⟩
      · intro h
        cases h
    obtain ⟨rfl, same⟩ := target
    exact ⟨up, name, whole, at_goal, dir, by rw [found, there, same], fits, settled⟩

end Disk

end DropLedger
