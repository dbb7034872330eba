import DropLedger.Disk.Basic
import DropLedger.Proofs.Basic

/-! What one step of writing does to a tree. What stands at a location is told without what is below
it, so that a step which works on one entry shows at one location only. -/
namespace DropLedger

namespace Node

def content? : Node → Option Bytes
  | .file content => some content
  | .dir _ => none

def seek (n : Option Node) (loc : Location) : Option Node := n.bind (·.at? loc)

/-- What stands at a location: nothing, a directory as `some none`, or a file with its content. -/
def found (n : Option Node) (loc : Location) : Option (Option Bytes) := (seek n loc).map content?

@[simp] theorem seek_nil (n : Option Node) : seek n [] = n := by
  cases n <;> rfl

@[simp] theorem seek_none (loc : Location) : seek none loc = none := rfl

theorem seek_dir (es : List (Bytes × Node)) (name : Bytes) (rest : Location) :
    seek (some (.dir es)) (name :: rest) = seek (es.lookup name) rest := by
  simp only [seek, Option.bind_some, at?]
  cases es.lookup name <;> rfl

theorem seek_file (content : Bytes) (name : Bytes) (rest : Location) :
    seek (some (.file content)) (name :: rest) = none := rfl

theorem seek_append (n : Option Node) (up down : Location) :
    seek n (up ++ down) = seek (seek n up) down := by
  induction up generalizing n with
  | nil => simp
  | cons name up ih =>
    cases n with
    | none => rfl
    | some n =>
      cases n with
      | file content => rfl
      | dir es => rw [List.cons_append, seek_dir, seek_dir, ih]

theorem found_eq_dir {n : Option Node} {loc : Location} :
    found n loc = some none ↔ ∃ es, seek n loc = some (.dir es) := by
  unfold found
  constructor
  · intro h
    obtain ⟨m, hm, shown⟩ := Option.map_eq_some_iff.mp h
    cases m with
    | file content => cases shown
    | dir es => exact ⟨es, hm⟩
  · rintro ⟨es, h⟩
    rw [h]
    rfl

theorem found_eq_file {n : Option Node} {loc : Location} {content : Bytes} :
    found n loc = some (some content) ↔ seek n loc = some (.file content) := by
  unfold found
  constructor
  · intro h
    obtain ⟨m, hm, shown⟩ := Option.map_eq_some_iff.mp h
    cases m with
    | file content =>
      cases shown
      exact hm
    | dir es => cases shown
  · intro h
    rw [h]
    rfl

theorem found_eq_none {n : Option Node} {loc : Location} : found n loc = none ↔ seek n loc = none :=
  Option.map_eq_none_iff

theorem dir_of_found {n : Option Node} {up : Location} {name : Bytes} {rest : Location}
    (h : found n (up ++ name :: rest) ≠ none) : found n up = some none := by
  rw [Ne, found_eq_none, seek_append] at h
  cases at_up : seek n up with
  | none => simp [at_up] at h
  | some m =>
    cases m with
    | file content => simp [at_up, seek_file] at h
    | dir es => exact found_eq_dir.mpr ⟨es, at_up⟩

section SetEntry

variable (name other : Bytes) (es : List (Bytes × Node))

theorem lookup_others :
    (es.filter (·.1 != name)).lookup other = if other = name then none else es.lookup other := by
  induction es with
  | nil => simp
  | cons e es ih =>
    obtain ⟨first, n⟩ := e
    by_cases same : first = name
    · rw [List.filter_cons_of_neg (by simpa using same), ih, same]
      split
      · rfl
      · rename_i apart
        rw [lookup_cons_ne n es apart]
    · rw [List.filter_cons_of_pos (by simpa using same)]
      by_cases hit : other = first
      · simp [hit, same]
      · rw [lookup_cons_ne n _ hit, lookup_cons_ne n _ hit, ih]

theorem lookup_setEntry (n : Option Node) :
    (setEntry name n es).lookup other = if other = name then n else es.lookup other := by
  cases n with
  | none => exact lookup_others name other es
  | some n =>
    simp only [setEntry]
    by_cases same : other = name
    · simp [same]
    · rw [lookup_cons_ne n _ same, lookup_others, if_neg same, if_neg same]

end SetEntry

section Alter

variable {f : Option Node → Option Node} {n : Option Node} {up : Location} {name : Bytes}

theorem found_alter_cons (es : List (Bytes × Node)) (loc : Location) (other : Bytes)
    (rest : Location) :
    found (alter f (name :: loc) (some (.dir es))) (other :: rest) =
      if other = name then found (alter f loc (es.lookup name)) rest
      else found (es.lookup other) rest := by
  rw [alter, found, seek_dir, lookup_setEntry]
  split <;> rfl

/-- A change under a directory shows at its location and below, and nowhere else. -/
theorem found_alter (way : found n up = some none) (loc : Location) :
    found (alter f (up ++ [name]) n) loc =
      if up ++ [name] <+: loc then
        found (f (seek n (up ++ [name]))) (loc.drop (up.length + 1))
      else found n loc := by
  induction up generalizing n loc with
  | nil =>
    obtain ⟨es, h⟩ := found_eq_dir.mp way
    rw [seek_nil] at h
    subst h
    cases loc with
    | nil => simp [alter, found, content?]
    | cons other rest =>
      rw [List.nil_append, found_alter_cons, seek_dir, seek_nil, alter]
      by_cases same : name = other
      · simp [same]
      · simp [same, Ne.symm same, found, seek_dir]
  | cons first up ih =>
    obtain ⟨es, rfl⟩ : ∃ es, n = some (.dir es) := by
      have below : found n ([] ++ first :: up) ≠ none := by simp [way]
      simpa using found_eq_dir.mp (dir_of_found below)
    have inner : found (es.lookup first) up = some none := by
      rwa [found, seek_dir] at way
    cases loc with
    | nil => simp [alter, found, content?]
    | cons other rest =>
      rw [List.cons_append, found_alter_cons, ih inner, seek_dir]
      by_cases same : first = other
      · subst same
        simp [found, seek_dir]
      · simp [same, Ne.symm same, found, seek_dir]

/-- Nothing is below this, if anything is there at all. -/
def Bare (n : Option Node) : Prop := ∀ name rest, found n (name :: rest) = none

theorem bare_seek {n : Option Node} {loc : Location} (h : found n loc ≠ some none) :
    Bare (seek n loc) := by
  intro name rest
  apply Decidable.byContradiction
  intro below
  apply h
  rw [found, ← seek_append] at below
  exact dir_of_found below

theorem found_alter_bare (way : found n up = some none)
    (before : found n (up ++ [name]) ≠ some none) (after : Bare (f (seek n (up ++ [name]))))
    (loc : Location) :
    found (alter f (up ++ [name]) n) loc =
      if loc = up ++ [name] then (f (seek n (up ++ [name]))).map content? else found n loc := by
  rw [found_alter way]
  split
  · rename_i below
    obtain ⟨rest, rfl⟩ := below
    have dropped : (up ++ [name] ++ rest).drop (up.length + 1) = rest :=
      List.drop_left' (by simp)
    rw [dropped]
    cases rest with
    | nil => simp [found]
    | cons other rest =>
      have old : found n (up ++ [name] ++ other :: rest) = none := by
        rw [found, seek_append]
        exact bare_seek before other rest
      rw [after, if_neg (by simp), old]
  · rename_i apart
    have away : loc ≠ up ++ [name] := by
      rintro rfl
      exact apart List.prefix_rfl
    rw [if_neg away]

theorem alter_some (f : Option Node → Option Node) (top : Node) (up : Location) (name : Bytes) :
    some ((alter f (up ++ [name]) (some top)).getD top) = alter f (up ++ [name]) (some top) := by
  cases up <;> cases top <;> rfl

end Alter

end Node

namespace Disk

def found (d : Disk) (loc : Location) : Option (Option Bytes) := (d.look loc).map Node.content?

/-- The content of the file at a location, if there is one. -/
def fileAt (d : Disk) (loc : Location) : Option Bytes := (d.found loc).join

theorem fileAt_eq_some {d : Disk} {loc : Location} {content : Bytes} :
    d.fileAt loc = some content ↔ d.found loc = some (some content) :=
  Option.join_eq_some_iff

variable {d : Disk} {up : Location} {name : Bytes}

theorem dir_of_found {rest : Location} (h : d.found (up ++ name :: rest) ≠ none) :
    d.found up = some none :=
  Node.dir_of_found (n := some d.top) h

theorem look_of_dir {loc : Location} (h : d.found loc = some none) :
    ∃ es, d.look loc = some (.dir es) :=
  Node.found_eq_dir (n := some d.top).mp h

theorem look_of_file {loc : Location} {content : Bytes} (h : d.found loc = some (some content)) :
    d.look loc = some (.file content) :=
  Node.found_eq_file (n := some d.top).mp h

theorem look_snoc {es : List (Bytes × Node)} (h : d.look up = some (.dir es)) (name : Bytes) :
    d.look (up ++ [name]) = es.lookup name := by
  have below := Node.seek_append (some d.top) up [name]
  change d.look (up ++ [name]) = Node.seek (d.look up) [name] at below
  rw [below, h, Node.seek_dir, Node.seek_nil]

section Commit

variable (way : d.found up = some none)
include way

theorem found_entry {f : Option Node → Option Node} {e : Disk}
    (free : d.found (up ++ [name]) ≠ some none) (bare : Node.Bare (f (d.look (up ++ [name]))))
    (changed : e.top = (Node.alter f (up ++ [name]) (some d.top)).getD d.top) (loc : Location) :
    e.found loc =
      if loc = up ++ [name] then (f (d.look (up ++ [name]))).map Node.content?
      else d.found loc := by
  have whole := Node.found_alter_bare (n := some d.top) way free bare loc
  rw [← Node.alter_some, ← changed] at whole
  exact whole

theorem found_makeDir (free : d.found (up ++ [name]) = none) (loc : Location) :
    (d.commit (.makeDir (up ++ [name]))).found loc =
      if loc = up ++ [name] then some none else d.found loc := by
  have empty : d.look (up ++ [name]) = none := Option.map_eq_none_iff.mp free
  have other : d.found (up ++ [name]) ≠ some none := by rw [free]; nofun
  have entry := found_entry (f := fun n => some (n.getD (.dir []))) way other
    (by rw [empty]; exact fun _ _ => rfl) (e := d.commit (.makeDir (up ++ [name]))) rfl loc
  rwa [empty] at entry

theorem found_clear (free : d.found (up ++ [name]) ≠ some none) (loc : Location) :
    (d.commit (.clear (up ++ [name]))).found loc =
      if loc = up ++ [name] then some (some []) else d.found loc :=
  found_entry (f := fun _ => some (.file [])) way free (fun _ _ => rfl) rfl loc

theorem found_extend {content : Bytes} (there : d.found (up ++ [name]) = some (some content))
    (more : Bytes) (loc : Location) :
    (d.commit (.extend (up ++ [name]) more)).found loc =
      if loc = up ++ [name] then some (some (content ++ more)) else d.found loc := by
  have old := look_of_file there
  have file : d.found (up ++ [name]) ≠ some none := by rw [there]; nofun
  have entry := found_entry (e := d.commit (.extend (up ++ [name]) more)) way file
    (by rw [old]; exact fun _ _ => rfl) rfl loc
  rwa [old] at entry

theorem found_rewritten (free : d.found (up ++ [name]) ≠ some none) (content : Bytes)
    (loc : Location) :
    ((d.commit (.clear (up ++ [name]))).commit (.extend (up ++ [name]) content)).found loc =
      if loc = up ++ [name] then some (some content) else d.found loc := by
  have cleared := found_clear way free
  have still : (d.commit (.clear (up ++ [name]))).found up = some none := by
    rw [cleared, if_neg (by simp), way]
  have empty : (d.commit (.clear (up ++ [name]))).found (up ++ [name]) = some (some []) := by
    rw [cleared, if_pos rfl]
  rw [found_extend still empty content loc, cleared]
  split <;> rfl

theorem found_remove (free : d.found (up ++ [name]) ≠ some none) (loc : Location) :
    (d.commit (.remove (up ++ [name]))).found loc =
      if loc = up ++ [name] then none else d.found loc :=
  found_entry (f := fun _ => none) way free (fun _ _ => rfl) rfl loc

end Commit

/-- Moving is taking away and putting down; the place that was left is free when it is not the place
that was meant. -/
theorem found_move {old new : Location} {source target : Bytes} {content : Bytes}
    (there : d.found (old ++ [source]) = some (some content)) (way : d.found new = some none)
    (free : d.found (new ++ [target]) ≠ some none) (loc : Location) :
    (d.commit (.move (old ++ [source]) (new ++ [target]))).found loc =
      if loc = new ++ [target] then some (some content)
      else if loc = old ++ [source] then none else d.found loc := by
  have from_dir : d.found old = some none := dir_of_found (by rw [there]; nofun)
  have file : d.found (old ++ [source]) ≠ some none := by rw [there]; nofun
  have left := found_remove from_dir file
  have still : (d.commit (.remove (old ++ [source]))).found new = some none := by
    rw [left, if_neg, way]
    intro same
    rw [← same, way] at there
    cases there
  have vacant : (d.commit (.remove (old ++ [source]))).found (new ++ [target]) ≠ some none := by
    rw [left]
    split
    · nofun
    · exact free
  have moved : d.top.at? (old ++ [source]) = some (.file content) := look_of_file there
  rw [← left]
  refine found_entry (f := fun _ => some (.file content)) still vacant (fun _ _ => rfl) ?_ loc
  simp only [commit, Change.apply, moved]

end Disk

end DropLedger
