import DropLedger.Selection
import DropLedger.Proofs.Disk.Writing

/-! Where the logs of a selection are. Different directories and different keys have different
places, and no spare file is in the place of a log. -/
namespace DropLedger

theorem keyOf_eq_ok {entity key : String} : keyOf entity = .ok key ↔ keyOf? entity = some key := by
  unfold keyOf
  cases keyOf? entity <;> simp

namespace Selection

/-- The player is one that may be selected. -/
def Proper (s : Selection) : Prop :=
  ∀ player, s.player = some player → isDots (sanitize player.toList) = false

/-- The player is one that `select` comes to. -/
def Accepts (player : String) : Prop :=
  (∃ given, named given = some player) ∧ isDots (sanitize player.toList) = false

def Accepted (s : Selection) : Prop := ∀ player, s.player = some player → Accepts player

theorem Accepted.proper {s : Selection} (h : s.Accepted) : s.Proper :=
  fun player chosen => (h player chosen).2

theorem select_accepted {s t : Selection} {player : Option String} (h : s.select player = .ok t) :
    t.Accepted ∧ t.root = s.root := by
  unfold select at h
  split at h
  · cases h
    exact ⟨nofun, rfl⟩
  · rename_i named
    split at h
    · cases h
    · rename_i dots
      cases h
      refine ⟨?_, rfl⟩
      rintro player ⟨rfl⟩
      exact ⟨⟨_, named⟩, by simpa using dots⟩

/-- The name of the directory in the root, or none for the root. -/
def branch (s : Selection) : List Bytes :=
  match s.player with
  | none => []
  | some player => [Utf8.encode (sanitize player.toList)]

theorem player_plain {player : String} (h : isDots (sanitize player.toList) = false) :
    PlainName (Utf8.encode (sanitize player.toList)) :=
  plain_of_safe ⟨fun _ hc => sanitize_safe hc, h⟩

variable {s t : Selection} {start : Location}

theorem route_directory (proper : s.Proper) :
    s.directory.route start = s.root.route start ++ s.branch := by
  unfold directory branch
  cases chosen : s.player with
  | none => rw [List.append_nil]
  | some player => exact Path.route_child (player_plain (proper player chosen)) start

theorem goal_directory (proper : s.Proper) :
    goal (s.directory.route start) = goal (s.root.route start) ++ s.branch := by
  unfold directory branch
  cases chosen : s.player with
  | none => rw [List.append_nil]
  | some player => exact Path.goal_child (player_plain (proper player chosen)) start

theorem settled_directory {d : Disk} (proper : s.Proper) (h : d.Settled (s.root.route start)) :
    d.Settled (s.directory.route start) := by
  unfold directory
  cases chosen : s.player with
  | none => exact h
  | some player =>
    have plain := player_plain (proper player chosen)
    rw [Path.route_child plain]
    exact Disk.settled_snoc.mpr ⟨h, fun leaves => absurd leaves plain.above⟩

theorem directory_of_branch (s : Selection) :
    s.directory = match s.branch with
      | [] => s.root
      | name :: _ => s.root.child name := by
  unfold directory branch
  cases s.player <;> rfl

theorem directory_ne_nil (proper : s.Proper) (named : s.root.raw ≠ []) : s.directory.raw ≠ [] := by
  unfold directory
  cases chosen : s.player with
  | none => exact named
  | some player => exact Path.child_ne_nil (player_plain (proper player chosen))

theorem directory_eq_iff (proper : s.Proper) (proper' : t.Proper) (root : s.root = t.root) :
    s.directory = t.directory ↔ s.branch = t.branch := by
  constructor
  · intro same
    have routes := congrArg (Path.route · []) same
    simp only [route_directory proper, route_directory proper', root] at routes
    exact List.append_cancel_left routes
  · intro same
    rw [directory_of_branch, directory_of_branch, same, root]

def logAt (s : Selection) (start : Location) (key : String) : Location :=
  goal (s.directory.route start) ++ [logName key]

def spareAt (s : Selection) (start : Location) (key : String) : Location :=
  goal (s.directory.route start) ++ [spareName key]

theorem logAt_eq_iff (proper : s.Proper) (proper' : t.Proper) (root : s.root = t.root)
    {j k : String} : s.logAt start j = t.logAt start k ↔ s.directory = t.directory ∧ j = k := by
  rw [directory_eq_iff proper proper' root]
  unfold logAt
  rw [goal_directory proper, goal_directory proper', root]
  constructor
  · intro same
    obtain ⟨whole, last⟩ := List.append_singleton_inj.mp same
    exact ⟨List.append_cancel_left whole, logName_injective last⟩
  · rintro ⟨same, rfl⟩
    rw [same]

theorem logAt_ne_spareAt (j k : String) : s.logAt start j ≠ t.spareAt start k := by
  intro same
  unfold logAt spareAt at same
  rw [List.append_singleton_inj] at same
  exact logName_ne_spareName j k same.2

theorem spare_away {content : Option Bytes} (j k : String) :
    [(t.spareAt start k, content)].lookup (s.logAt start j) = none :=
  lookup_cons_ne _ _ (logAt_ne_spareAt j k)

theorem spares_away {edits : List (Location × Option Bytes)}
    (spare : ∀ loc content, edits.lookup loc = some content → ∃ k, loc = t.spareAt start k)
    (j : String) : edits.lookup (s.logAt start j) = none := by
  cases edit : edits.lookup (s.logAt start j) with
  | none => rfl
  | some content =>
    obtain ⟨k, same⟩ := spare _ content edit
    exact absurd same (logAt_ne_spareAt j k)

end Selection

end DropLedger
