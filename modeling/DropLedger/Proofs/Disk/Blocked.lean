import DropLedger.Proofs.Disk.Turns
import DropLedger.Proofs.Disk.Writable

/-! Ways that could not be made. Where the making of a directory has stopped on its way, nothing is
made later for a file in it: what could be made of the way has been made the first time. -/
namespace DropLedger.Disk

variable {d e f : Disk} {p q : Path} {name : Bytes}

theorem settled_append {xs ys : List Bytes} (settled : d.Settled xs) (stays : above ∉ ys) :
    d.Settled (xs ++ ys) := by
  induction ys using List.reverseRecOn with
  | nil => rwa [List.append_nil]
  | append_singleton ys last ih =>
    simp only [List.mem_append, List.mem_singleton, not_or] at stays
    rw [← List.append_assoc]
    exact settled_snoc.mpr ⟨ih stays.1, fun leaves => absurd leaves.symm stays.2⟩

theorem settled_beginning {xs ys : List Bytes} (settled : d.Settled (xs ++ ys)) : d.Settled xs := by
  intro before after whole
  exact settled before (after ++ ys) (by simp [whole])

theorem dir_on_way {before after : List Bytes} {t : Trail}
    (walked : d.walk [] (before ++ after) = .ok t) (more : after ≠ []) :
    d.found (goal before) = some none := by
  rw [walk_append] at walked
  obtain ⟨u, first, onward⟩ := bind_eq_ok.mp walked
  obtain ⟨held, at_goal, _⟩ := walk_sound first
  cases after with
  | nil => exact absurd rfl more
  | cons next after =>
    obtain ⟨_, entered, _⟩ := bind_eq_ok.mp onward
    rw [← at_goal]
    exact (enter_sound held entered).2.2.1

section Begins

variable (begins : q.Begins p)
include begins

theorem isDir_on_way {more : List Bytes} {t : Trail} (taken : q.refusal? = none)
    (walked : d.walk [] (q.route d.start ++ more) = .ok t)
    (ends : more = [] → (d.node t).isDir = true) : d.isDir q = true := by
  obtain ⟨held, at_goal, short, settled⟩ := walk_sound walked
  refine isDir_iff.mpr
    ⟨begins.named, ⟨taken, (short_append.mp short).1⟩, settled_beginning settled, ?_⟩
  cases more with
  | nil =>
    rw [List.append_nil] at at_goal
    rw [← at_goal, found_trail held]
    cases node : d.node t with
    | dir es => rfl
    | file content => simp [node, Node.isDir] at ends
  | cons next more => exact dir_on_way walked (List.cons_ne_nil _ _)

theorem isDir_begin (dir : d.isDir p = true) : d.isDir q = true := by
  obtain ⟨rest, some, whole⟩ := begins.route d.start
  obtain ⟨_, ⟨taken, short⟩, settled, there⟩ := isDir_iff.mp dir
  obtain ⟨t, walked⟩ := walk_complete settled short there
  rw [whole] at walked
  exact isDir_on_way begins (Path.taken_begin begins.written taken) walked (absurd · some)

theorem before_last {before : List Bytes} {last : Bytes} (names : p.names = before ++ [last]) :
    ∃ more, (if p.absolute then [] else d.start) ++ before = q.route d.start ++ more := by
  obtain ⟨rest, some, whole⟩ := begins.names
  rcases List.eq_nil_or_concat' rest with none | ⟨more, final, rfl⟩
  · exact absurd none some
  · rw [names, ← List.append_assoc] at whole
    refine ⟨more, ?_⟩
    rw [(List.append_singleton_inj.mp whole).1, Path.route, begins.absolute]
    split
    · rfl
    · rw [List.append_assoc]

theorem isDir_of_makeDir (made : d.makeDir p = .ok f) : d.isDir q = true := by
  obtain ⟨placed, at_place, made⟩ := bind_eq_ok.mp made
  split at made
  · obtain ⟨taken, before, last, t, es, names, walked, node, _⟩ := place_walked at_place
    obtain ⟨more, way⟩ := before_last (d := d) begins names
    rw [way] at walked
    refine isDir_on_way begins (Path.taken_begin begins.written taken) walked fun _ => ?_
    rw [node]
    rfl
  · cases made

/-- Where a beginning of a path could be made, the way to the rest is missing. -/
theorem makeDir_missing (taken : p.refusal? = none) (made : d.makeDir q = .ok f) :
    d.makeDir p = .error .noEntry := by
  obtain ⟨placed, at_place, made⟩ := bind_eq_ok.mp made
  split at made
  · obtain ⟨_, before, last, t, es, names, walked, node, stays, leaves, limit, _, free⟩ :=
      place_walked at_place
    have missing : d.enter t last = .error .noEntry := by
      unfold enter
      simp [node, stays, leaves, Nat.not_lt.mpr limit, free]
    obtain ⟨rest, some, whole⟩ := begins.names
    have names_some : p.names ≠ [] := by simp [whole, some]
    rcases List.eq_nil_or_concat' p.names with none | ⟨way, final, whole'⟩
    · exact absurd none names_some
    · obtain ⟨more, onward⟩ := before_last (d := d) begins whole'
      have stuck : d.walk [] (q.route d.start ++ more) = .error .noEntry := by
        rw [route_snoc names, walk_append, walk_snoc, walked]
        change ((d.enter t last) >>= _) = _
        rw [missing]
        rfl
      unfold makeDir
      rw [place_last taken whole', onward, stuck]
      rfl
  · cases made

end Begins

section Chain

variable {lengths : List Nat}

theorem makeChain_unmade (unmade : ∀ n ∈ lengths, ∀ f, d.makeDir (p.upTo n) ≠ .ok f) :
    (d.makeChain p lengths).2 = d := by
  have kept (q : Path) (failed : ∀ f, d.makeDir q ≠ .ok f) : (d.settle q (d.makeDir q)).2 = d := by
    unfold settle
    split
    · rename_i made
      exact absurd made (failed _)
    · split <;> rfl
  induction lengths with
  | nil => rfl
  | cons length up ih =>
    obtain ⟨first, others⟩ := List.forall_mem_cons.mp unmade
    have above := ih others
    unfold makeChain
    split
    · split
      · rename_i shown
        rwa [shown] at above
      · rename_i shown
        rw [shown] at above
        dsimp only at above ⊢
        rw [above]
        exact kept _ first
    · exact kept _ first

/-- A beginning that is not there is left where the making of a way has stopped. -/
theorem makeChain_stopped {cause : Cause} (h : d.makeChain p lengths = (.error cause, e)) :
    ∃ n ∈ lengths, e.isDir (p.upTo n) = false := by
  have at_first {d : Disk} {q : Path} {made : Except Cause Disk}
      (h : d.settle q made = (.error cause, e)) : e.isDir q = false := by
    unfold settle at h
    split at h
    · cases h
    · split at h
      · cases h
      · rename_i missing
        cases h
        simpa using missing
  induction lengths with
  | nil => cases h
  | cons length up ih =>
    unfold makeChain at h
    split at h
    · split at h
      · rename_i shown
        cases h
        obtain ⟨n, member, missing⟩ := ih shown
        exact ⟨n, List.mem_cons_of_mem _ member, missing⟩
      · exact ⟨length, List.mem_cons_self, at_first h⟩
    · exact ⟨length, List.mem_cons_self, at_first h⟩

theorem settle_cases {r : Except Cause Unit} (h : d.settle q (d.makeDir q) = (r, e)) :
    e.isDir q = true ∨ (e = d ∧ ∀ f, d.makeDir q ≠ .ok f) := by
  unfold settle at h
  split at h
  · rename_i made
    cases h
    exact .inl (makeDir_isDir made)
  · rename_i failed
    split at h
    · rename_i dir
      cases h
      exact .inl dir
    · cases h
      exact .inr ⟨rfl, by simp [failed]⟩

/-- What could be made of a way has been made. -/
theorem makeChain_exhausts {r : Except Cause Unit} (taken : p.refusal? = none)
    (falling : lengths.Pairwise fun n m => (p.upTo m).Begins (p.upTo n))
    (h : d.makeChain p lengths = (r, e)) :
    ∀ n ∈ lengths, ∀ f, e.makeDir (p.upTo n) ≠ .ok f := by
  induction lengths generalizing d r e with
  | nil => simp
  | cons length up ih =>
    obtain ⟨begins, falling⟩ := List.pairwise_cons.mp falling
    -- Those after it in the chain are on its way, so they are there if it is.
    have there {e : Disk} (dir : e.isDir (p.upTo length) = true) :
        ∀ n ∈ length :: up, ∀ f, e.makeDir (p.upTo n) ≠ .ok f := by
      refine List.forall_mem_cons.mpr ⟨?_, fun n member => ?_⟩
      · simp [makeDir_there dir]
      · simp [makeDir_there (isDir_begin (begins n member) dir)]
    unfold makeChain at h
    split at h
    · split at h
      · rename_i shown
        cases h
        refine List.forall_mem_cons.mpr ⟨?_, ih falling shown⟩
        intro f made
        obtain ⟨n, member, missing⟩ := makeChain_stopped shown
        simp [isDir_of_makeDir (begins n member) made] at missing
      · rename_i shown
        have above := ih falling shown
        rcases settle_cases h with dir | ⟨rfl, unmade⟩
        · exact there dir
        · exact List.forall_mem_cons.mpr ⟨unmade, above⟩
    · rename_i onward
      rcases settle_cases h with dir | ⟨rfl, unmade⟩
      · exact there dir
      · refine List.forall_mem_cons.mpr ⟨unmade, ?_⟩
        intro n member f made
        have inside := Path.taken_begin (q := p.upTo length) (List.take_prefix _ _) taken
        exact onward (makeDir_missing (begins n member) inside made)

end Chain

theorem upTo_child {n : Nat} (within : n ≤ p.raw.length) :
    (p.child name).upTo n = p.upTo n := by
  obtain ⟨more, whole⟩ := Path.child_begins p name
  simp only [Path.upTo, ← whole, List.take_append_of_le_length within]

section Blocked

variable {r : Except Cause Unit} (plain : PlainName name)
include plain

/-- A directory that was to be made and whose path leads out of one that is missing is not reached
later: nothing is made for a file in it. -/
theorem makeWay_blocked (attempt : d.makeDirs p = (r, e)) (taken : p.refusal? = none)
    (astray : ¬e.Settled (p.route e.start)) : (e.makeWay (p.child name)).2 = e := by
  apply makeChain_unmade
  rw [Path.turns_child plain]
  split
  · simp
  · rename_i leads
    have short : (Path.dropHere p.raw.reverse).length ≤ p.raw.length := by
      simpa using (Path.dropHere_suffix p.raw.reverse).length_le
    have tried : d.makeChain p (p.raw.length :: p.turns) = (r, e) := by
      rw [makeDirs, Path.rootOnly, if_neg (by simpa using leads)] at attempt
      exact attempt
    have exhausted := makeChain_exhausts taken (Path.turns_falling p) tried
    refine List.forall_mem_cons.mpr ⟨?_, ?_⟩
    · intro f made
      obtain ⟨placed, at_place, made⟩ := bind_eq_ok.mp made
      split at made
      · obtain ⟨_, _, _, _, _, _, _, settled⟩ := place_sound at_place
        rw [upTo_child short] at settled
        obtain ⟨stays, whole, only⟩ := Path.route_dropHere leads e.start
        rw [whole] at astray
        exact astray (settled_append settled only)
      · cases made
    · intro n turn f made
      rw [upTo_child ((Path.turn_lt turn).le.trans short)] at made
      exact exhausted n (List.mem_cons_of_mem _ turn) f made

/-- For a file in a directory whose path is refused nothing is made. -/
theorem makeWay_refused {cause : Cause} (refused : p.refusal? = some cause)
    (ends : Path.dropHere p.raw.reverse = p.raw.reverse) : (d.makeWay (p.child name)).2 = d := by
  have whole : (p.child name).upTo p.raw.length = p := by
    rw [upTo_child le_rfl]
    simp [Path.upTo]
  have unmade : d.makeDir p = .error cause := by
    unfold makeDir place
    rw [refused]
    rfl
  have missing : d.isDir p = false := by
    unfold isDir locate
    rw [refused]
    rfl
  unfold makeWay
  rw [Path.turns_child plain, ends]
  split
  · rfl
  · rw [List.length_reverse]
    unfold makeChain
    rw [whole, unmade]
    have other : cause ≠ .noEntry := by
      rintro rfl
      unfold Path.refusal? at refused
      split at refused <;> simp at refused
    cases cause <;> simp [settle, missing] at other ⊢

end Blocked

section Astray

variable (astray : ¬d.Settled (p.route d.start))
include astray

theorem fileTarget_astray (plain : PlainName name) (r : Location × Option Bytes) :
    d.fileTarget (p.child name) ≠ .ok r := by
  intro targeted
  obtain ⟨loc, content⟩ := r
  obtain ⟨_, _, _, _, _, _, _, settled⟩ := fileTarget_sound targeted
  rw [Path.route_child plain] at settled
  exact astray (settled_snoc.mp settled).1

theorem remove_astray (plain : PlainName name) (e : Disk) : d.remove (p.child name) ≠ .ok e := by
  intro removed
  obtain ⟨⟨loc, n⟩, located, _⟩ := bind_eq_ok.mp removed
  have settled := (locate_sound located).2.1
  rw [Path.route_child plain] at settled
  exact astray (settled_snoc.mp settled).1

variable (blocked : (d.makeWay (p.child name)).2 = d)
include blocked

theorem appendLine_astray (plain : PlainName name) (line : Bytes) :
    (d.appendLine (p.child name) line).2 = d := by
  cases done : d.appendLine (p.child name) line with
  | mk r e =>
    rcases appendLine_cases done with ⟨_, _, same⟩ | ⟨d', _, _, _, made, opened, _⟩
    · exact same.trans blocked
    · rw [made] at blocked
      obtain rfl : d' = d := blocked
      obtain ⟨r, targeted, _⟩ := bind_eq_ok.mp opened
      exact absurd targeted (fileTarget_astray astray plain r)

theorem replace_astray {spare : Bytes} (spared : PlainName spare) (content : Bytes) :
    (d.replace (p.child name) (p.child spare) content).2 = d := by
  cases done : d.replace (p.child name) (p.child spare) content with
  | mk r e =>
    rcases replace_cases done with ⟨_, _, same⟩ | ⟨d', f, made, written, _⟩
    · exact same.trans blocked
    · rw [made] at blocked
      obtain rfl : d' = d := blocked
      obtain ⟨_, cleared, _⟩ := bind_eq_ok.mp written
      obtain ⟨r, targeted, _⟩ := bind_eq_ok.mp cleared
      exact absurd targeted (fileTarget_astray astray spared r)

end Astray

end DropLedger.Disk
