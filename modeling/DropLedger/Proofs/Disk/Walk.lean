import DropLedger.Proofs.Basic
import DropLedger.Proofs.Disk.Tree

/-! Where paths lead. The names alone tell the location, provided that every step out of a directory
leaves one that is there. -/
namespace DropLedger

def Location.follow (loc : Location) (name : Bytes) : Location :=
  if name = here then loc else if name = above then loc.dropLast else loc ++ [name]

/-- Where names lead from the top of a disk if nothing is in the way. -/
def goal (names : List Bytes) : Location := names.foldl Location.follow []

theorem goal_snoc (names : List Bytes) (name : Bytes) :
    goal (names ++ [name]) = (goal names).follow name := by
  simp [goal]

theorem follow_plain {loc : Location} {name : Bytes} (stays : name ≠ here) (leaves : name ≠ above) :
    loc.follow name = loc ++ [name] := by
  rw [Location.follow, if_neg stays, if_neg leaves]

def Short (names : List Bytes) : Prop := ∀ name ∈ names, name.length ≤ nameLimit

theorem short_append {xs ys : List Bytes} : Short (xs ++ ys) ↔ Short xs ∧ Short ys :=
  List.forall_mem_append

theorem short_singleton {name : Bytes} : Short [name] ↔ name.length ≤ nameLimit :=
  List.forall_mem_singleton

/-- All names from the top of the disk to what a path names. -/
def Path.route (p : Path) (start : Location) : List Bytes :=
  if p.absolute then p.names else start ++ p.names

namespace Disk

/-- Whatever the names leave again is a directory. -/
def Settled (d : Disk) (names : List Bytes) : Prop :=
  ∀ before after, names = before ++ above :: after → d.found (goal before) = some none

theorem settled_of_no_above (d : Disk) {names : List Bytes} (h : above ∉ names) :
    d.Settled names := by
  rintro before after rfl
  simp at h

theorem settled_snoc {d : Disk} {names : List Bytes} {name : Bytes} :
    d.Settled (names ++ [name]) ↔
      d.Settled names ∧ (name = above → d.found (goal names) = some none) := by
  constructor
  · intro h
    refine ⟨fun before after whole => h before (after ++ [name]) (by simp [whole]), ?_⟩
    rintro rfl
    exact h names [] rfl
  · rintro ⟨inner, last⟩ before after whole
    induction after using List.reverseRecOn with
    | nil =>
      obtain ⟨rfl, rfl⟩ := List.append_singleton_inj.mp whole
      exact last rfl
    | append_singleton after other _ =>
      rw [← List.cons_append, ← List.append_assoc] at whole
      exact inner before after (List.append_singleton_inj.mp whole).1

theorem settled_mono {d e : Disk} {names : List Bytes}
    (kept : ∀ loc, d.found loc = some none → e.found loc = some none) (h : d.Settled names) :
    e.Settled names :=
  fun before after whole => kept _ (h before after whole)

/-- The nodes of a trail stand where it says. -/
def Holds (d : Disk) (t : Trail) : Prop :=
  ∀ u : Trail, u <:+ t → d.look u.location = some (d.node u)

theorem holds_nil (d : Disk) : d.Holds [] := by
  intro u hu
  rw [List.suffix_nil.mp hu]
  rfl

theorem location_cons (name : Bytes) (n : Node) (t : Trail) :
    Trail.location ((name, n) :: t) = t.location ++ [name] := by
  simp [Trail.location]

theorem location_tail (t : Trail) : Trail.location t.tail = t.location.dropLast := by
  simp [Trail.location, List.map_tail]

variable {d : Disk} {names : List Bytes} {name : Bytes}

theorem look_trail {t : Trail} (held : d.Holds t) : d.look t.location = some (d.node t) :=
  held t List.suffix_rfl

theorem found_trail {t : Trail} (held : d.Holds t) :
    d.found t.location = some (d.node t).content? := by
  rw [found, look_trail held]
  rfl

theorem enter_sound {t u : Trail} (held : d.Holds t) (h : d.enter t name = .ok u) :
    d.Holds u ∧ u.location = t.location.follow name ∧ d.found t.location = some none ∧
      name.length ≤ nameLimit := by
  unfold enter at h
  split at h
  · cases h
  · rename_i es at_end
    have there : d.look t.location = some (.dir es) := at_end ▸ look_trail held
    have dir : d.found t.location = some none := by
      rw [found_trail held, at_end]
      rfl
    split at h
    · rename_i stays
      cases h
      exact ⟨held, by simp [Location.follow, stays], dir, by rw [stays]; decide⟩
    · rename_i moves
      split at h
      · rename_i leaves
        cases h
        refine ⟨fun u hu => held u (hu.trans (List.tail_suffix t)), ?_, dir, by rw [leaves]; decide⟩
        rw [location_tail, Location.follow, if_neg moves, if_pos leaves]
      · rename_i stays_in
        split at h
        · cases h
        · rename_i short
          split at h
          · rename_i n entry
            cases h
            refine ⟨fun u hu => ?_, ?_, dir, by omega⟩
            · rcases List.suffix_cons_iff.mp hu with rfl | hu
              · rw [location_cons, look_snoc there, entry]
                rfl
              · exact held u hu
            · rw [location_cons, follow_plain moves stays_in]
          · cases h

theorem walk_append (d : Disk) (t : Trail) (xs ys : List Bytes) :
    d.walk t (xs ++ ys) = d.walk t xs >>= fun u => d.walk u ys := by
  induction xs generalizing t with
  | nil => rfl
  | cons x xs ih =>
    simp only [List.cons_append, walk]
    cases d.enter t x with
    | error e => rfl
    | ok u => exact ih u

theorem walk_snoc (d : Disk) (t : Trail) (names : List Bytes) (name : Bytes) :
    d.walk t (names ++ [name]) = d.walk t names >>= fun u => d.enter u name := by
  rw [walk_append]
  congr 1
  funext u
  simp only [walk]
  cases d.enter u name <;> rfl

/-- A walk that ends well ends where the names lead. -/
theorem walk_sound {t : Trail} (h : d.walk [] names = .ok t) :
    d.Holds t ∧ t.location = goal names ∧ Short names ∧ d.Settled names := by
  induction names using List.reverseRecOn generalizing t with
  | nil =>
    cases h
    exact ⟨holds_nil d, rfl, nofun, fun before after whole => by cases before <;> cases whole⟩
  | append_singleton names name ih =>
    rw [walk_snoc] at h
    obtain ⟨u, walked, entered⟩ := bind_eq_ok.mp h
    obtain ⟨held, at_goal, short, settled⟩ := ih walked
    obtain ⟨holds, moved, dir, limit⟩ := enter_sound held entered
    rw [at_goal] at moved dir
    exact ⟨holds, by rw [moved, goal_snoc], short_append.mpr ⟨short, short_singleton.mpr limit⟩,
      settled_snoc.mpr ⟨settled, fun _ => dir⟩⟩

theorem enter_complete {t : Trail} (held : d.Holds t) (dir : d.found t.location = some none)
    (limit : name.length ≤ nameLimit)
    (there : name ≠ here → name ≠ above → d.found (t.location ++ [name]) ≠ none) :
    ∃ u, d.enter t name = .ok u := by
  obtain ⟨es, at_end⟩ := look_of_dir dir
  have node : d.node t = .dir es := by
    rw [look_trail held] at at_end
    exact Option.some.inj at_end
  unfold enter
  rw [node]
  dsimp only
  split
  · exact ⟨_, rfl⟩
  · rename_i moves
    split
    · exact ⟨_, rfl⟩
    · rename_i stays_in
      rw [if_neg (by omega)]
      have entry := there moves stays_in
      rw [found, look_snoc at_end, Ne, Option.map_eq_none_iff] at entry
      split
      · exact ⟨_, rfl⟩
      · contradiction

/-- To a directory that is there a walk does not fail. -/
theorem walk_complete (settled : d.Settled names) (short : Short names)
    (dir : d.found (goal names) = some none) : ∃ t, d.walk [] names = .ok t := by
  induction names using List.reverseRecOn with
  | nil => exact ⟨[], rfl⟩
  | append_singleton names name ih =>
    obtain ⟨inner, last⟩ := settled_snoc.mp settled
    obtain ⟨first, limit⟩ := short_append.mp short
    rw [goal_snoc] at dir
    have way : d.found (goal names) = some none := by
      by_cases stays : name = here
      · rwa [Location.follow, if_pos stays] at dir
      · by_cases leaves : name = above
        · exact last leaves
        · rw [follow_plain stays leaves] at dir
          exact dir_of_found (by rw [dir]; nofun)
    obtain ⟨t, walked⟩ := ih inner first way
    obtain ⟨held, at_goal, _⟩ := walk_sound walked
    have there : name ≠ here → name ≠ above → d.found (t.location ++ [name]) ≠ none := by
      intro stays leaves
      rw [follow_plain stays leaves] at dir
      rw [at_goal, dir]
      nofun
    obtain ⟨u, entered⟩ := enter_complete held (at_goal ▸ way) (short_singleton.mp limit) there
    exact ⟨u, by rw [walk_snoc, walked]; exact entered⟩

end Disk

end DropLedger
