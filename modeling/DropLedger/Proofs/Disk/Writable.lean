import DropLedger.Proofs.Disk.Writing

/-! When writing succeeds. A directory that was made stays on the way, and where a directory is
there a file in it can be written whose name and path are not too long. -/
namespace DropLedger.Disk

variable {d e f : Disk} {p : Path} {new : Location → Prop} {edits : List (Location × Option Bytes)}

theorem isDir_iff :
    d.isDir p = true ↔ p.raw ≠ [] ∧ p.Fits d.start ∧ d.Settled (p.route d.start) ∧
      d.found (goal (p.route d.start)) = some none := by
  unfold isDir
  constructor
  · intro h
    cases located : d.locate p with
    | error cause =>
      rw [located] at h
      cases h
    | ok r =>
      obtain ⟨loc, n⟩ := r
      rw [located] at h
      obtain ⟨fits, settled, rfl, there⟩ := locate_sound located
      cases n with
      | file content => cases h
      | dir es =>
        refine ⟨(locate_taken located).1, fits, settled, ?_⟩
        rw [found, there]
        rfl
  · rintro ⟨named, fits, settled, dir⟩
    obtain ⟨es, located⟩ := locate_dir named fits settled dir
    rw [located]
    rfl

theorem Changed.isDir (h : Changed new edits d e) (dir : d.isDir p = true) : e.isDir p = true := by
  obtain ⟨named, fits, settled, there⟩ := isDir_iff.mp dir
  rw [← h.start] at fits settled there
  exact isDir_iff.mpr ⟨named, fits, h.settled settled, h.dirs _ there⟩

section MakeDir

theorem place_named {r : Location × Option Node} (h : d.place p = .ok (some r)) : p.raw ≠ [] := by
  obtain ⟨raw⟩ := p
  rintro rfl
  cases h

/-- The directory is there after it was made. -/
theorem makeDir_isDir (h : d.makeDir p = .ok e) : e.isDir p = true := by
  have changed := makeDir_changed h
  unfold makeDir at h
  obtain ⟨placed, at_place, h⟩ := bind_eq_ok.mp h
  split at h
  · cases h
    obtain ⟨up, name, rfl, at_goal, way, free, fits, settled⟩ := place_sound at_place
    have vacant : d.found (up ++ [name]) = none := by rw [found, free]; rfl
    refine isDir_iff.mpr ⟨place_named at_place, fits, changed.settled settled, ?_⟩
    change (d.commit _).found (goal (p.route d.start)) = some none
    rw [at_goal, found_makeDir way vacant, if_pos rfl]
  · cases h

theorem absolute_of_names (named : p.raw ≠ []) (none : p.names = []) : p.absolute = true := by
  obtain ⟨raw⟩ := p
  obtain ⟨b, rest, rfl⟩ := List.exists_cons_of_ne_nil named
  by_cases same : b = slash
  · rw [same]
    rfl
  · exact absurd none (Path.names_ne_nil List.mem_cons_self same)

/-- What a path names, told from the end of the way to it. -/
theorem place_eq {before : List Bytes} {name : Bytes} {t : Trail} (taken : p.refusal? = none)
    (names : p.names = before ++ [name])
    (walked : d.walk [] ((if p.absolute then [] else d.start) ++ before) = .ok t) :
    d.place p = match d.node t with
      | .file _ => .error .notDirectory
      | .dir es =>
        if name = here || name = above then .ok none
        else if nameLimit < name.length then .error .nameTooLong
        else .ok (some (t.location ++ [name], es.lookup name)) := by
  rw [place_last taken names, walked]
  rfl

/-- A directory that is there is not made again. -/
theorem makeDir_there (dir : d.isDir p = true) : d.makeDir p = .error .entryExists := by
  obtain ⟨named, ⟨taken, short⟩, settled, there⟩ := isDir_iff.mp dir
  obtain ⟨t, walked⟩ := walk_complete settled short there
  cases last : p.names.getLast? with
  | none =>
    unfold makeDir place
    rw [taken, last, absolute_of_names named (List.getLast?_eq_none_iff.mp last)]
    rfl
  | some name =>
    obtain ⟨before, names⟩ := List.getLast?_eq_some_iff.mp last
    rw [route_snoc names, walk_snoc] at walked
    obtain ⟨u, first, entered⟩ := bind_eq_ok.mp walked
    unfold makeDir
    rw [place_eq taken names first]
    unfold enter at entered
    cases node : d.node u with
    | file content =>
      rw [node] at entered
      cases entered
    | dir es =>
      rw [node] at entered
      dsimp only at entered ⊢
      by_cases leads : (name = here || name = above) = true
      · rw [if_pos leads]
        rfl
      · have apart := leads
        simp only [Bool.or_eq_true, decide_eq_true_eq, not_or] at apart
        rw [if_neg apart.1, if_neg apart.2] at entered
        split at entered
        · cases entered
        · rename_i limit
          split at entered
          · rename_i n entry
            rw [if_neg leads, if_neg limit, entry]
            rfl
          · cases entered

end MakeDir

section Way

theorem settle_isDir {made : Except Cause Disk} (after : ∀ f, made = .ok f → f.isDir p = true)
    (h : d.settle p made = (.ok (), e)) : e.isDir p = true := by
  unfold settle at h
  split at h
  · rename_i f
    cases h
    exact after _ rfl
  · split at h
    · rename_i there
      cases h
      exact there
    · cases h

/-- The nearest directory on a way that was made is there. -/
theorem makeChain_isDir {length : Nat} {up : List Nat}
    (h : d.makeChain p (length :: up) = (.ok (), e)) : e.isDir (p.upTo length) = true := by
  unfold makeChain at h
  split at h
  · split at h
    · cases h
    · exact settle_isDir (fun _ => makeDir_isDir) h
  · exact settle_isDir (fun _ => makeDir_isDir) h

/-- On a way that is there nothing is made. -/
theorem makeChain_there {lengths : List Nat}
    (h : ∀ length, lengths.head? = some length → d.isDir (p.upTo length) = true) :
    d.makeChain p lengths = (.ok (), d) := by
  cases lengths with
  | nil => rfl
  | cons length up =>
    have dir := h length rfl
    unfold makeChain
    rw [makeDir_there dir]
    simp [settle, dir]

/-- A way that was made is not made again, whatever files were edited since. -/
theorem makeWay_again (h : d.makeWay p = (.ok (), e)) (changed : Changed new edits e f) :
    f.makeWay p = (.ok (), f) := by
  unfold makeWay at h ⊢
  refine makeChain_there fun length first => ?_
  obtain ⟨up, whole⟩ := List.head?_eq_some_iff.mp first
  rw [whole] at h
  exact changed.isDir (makeChain_isDir h)

theorem appendLine_way {line : Bytes} (h : d.appendLine p line = (.ok (), e)) :
    e.makeWay p = (.ok (), e) := by
  rcases appendLine_cases h with ⟨_, failed, _⟩ | ⟨d', loc, content, f, made, opened, _, rfl⟩
  · cases failed
  · have edited : Changed (fun _ => True) [(loc, some (content ++ freshLine content line))] d'
        (f.commit (.extend loc (freshLine content line))) :=
      (openFile_extended opened (freshLine content line)).2.2.2
    exact makeWay_again made edited

end Way

section Beyond

/-- Names that lead to where nothing is lead on from there: nothing that is missing is left again.
-/
theorem goal_stays {before after : List Bytes} {loc : Location} (free : d.found loc = none)
    (settled : d.Settled (before ++ after)) (inside : loc <+: goal before) :
    loc <+: goal (before ++ after) := by
  induction after generalizing before with
  | nil => rwa [List.append_nil]
  | cons next after ih =>
    have more : before ++ next :: after = before ++ [next] ++ after := by simp
    rw [more] at settled ⊢
    apply ih settled
    rw [goal_snoc]
    by_cases stays : next = here
    · rwa [Location.follow, if_pos stays]
    · by_cases leaves : next = above
      · have dir := settled before after (by rw [leaves]; simp)
        obtain ⟨rest, whole⟩ := inside
        cases rest with
        | nil =>
          rw [List.append_nil] at whole
          rw [← whole, free] at dir
          cases dir
        | cons name rest =>
          have missing : d.found (loc ++ name :: rest) ≠ none := by
            rw [whole, dir]
            exact Option.some_ne_none _
          rw [dir_of_found missing] at free
          cases free
      · rw [follow_plain stays leaves]
        exact inside.trans (List.prefix_append _ _)

/-- Making the way to a directory makes nothing in that directory. -/
theorem Changed.found_in {name : Bytes} (h : Changed (Toward p d.start) edits d e)
    (settled : d.Settled (p.route d.start))
    (away : edits.lookup (goal (p.route d.start) ++ [name]) = none) :
    e.found (goal (p.route d.start) ++ [name]) = d.found (goal (p.route d.start) ++ [name]) := by
  rcases h.others _ away with same | ⟨free, _, names, ⟨after, whole⟩, toward⟩
  · exact same
  · have inside := goal_stays free (whole ▸ settled) (toward ▸ List.prefix_rfl)
    rw [whole] at inside
    have longer := inside.length_le
    simp at longer

end Beyond

theorem child_append (p : Path) (name more : Bytes) :
    (p.child (name ++ more)).raw = (p.child name).raw ++ more := by
  unfold Path.child
  split <;> simp

section Replace

variable {name spare content : Bytes} (plain : PlainName name) (spared : PlainName spare)

include plain in
/-- A file is written where it is, or where nothing is yet. -/
theorem fileTarget_child (settled : d.Settled (p.route d.start)) (fits : (p.child name).Fits d.start)
    (way : d.found (goal (p.route d.start)) = some none)
    (free : d.found (goal (p.route d.start) ++ [name]) ≠ some none) :
    ∃ old, d.fileTarget (p.child name) = .ok (goal (p.route d.start) ++ [name], old) := by
  obtain ⟨taken, short⟩ := fits
  rw [Path.route_child plain] at short
  obtain ⟨first, limit⟩ := short_append.mp short
  obtain ⟨t, walked⟩ := walk_complete settled first way
  obtain ⟨held, at_goal, _⟩ := walk_sound walked
  obtain ⟨es, there⟩ := look_of_dir way
  have node : d.node t = .dir es := by
    rw [← at_goal, look_trail held] at there
    exact Option.some.inj there
  have onward : d.walk [] ((if (p.child name).absolute then [] else d.start) ++ p.names) =
      .ok t := by
    rw [← walked, Path.absolute_child plain, Path.route]
    split <;> rfl
  have placed := place_eq taken (Path.names_child plain) onward
  rw [node] at placed
  simp only [plain.here, plain.above, decide_false, Bool.or_self, Bool.false_eq_true, if_false,
    if_neg (Nat.not_lt.mpr (short_singleton.mp limit)), at_goal] at placed
  unfold fileTarget
  rw [placed, Path.slashed_child plain]
  rw [found, look_snoc there] at free
  cases entry : es.lookup name with
  | none => exact ⟨none, rfl⟩
  | some n =>
    cases n with
    | file old => exact ⟨some old, rfl⟩
    | dir entries =>
      rw [entry] at free
      exact absurd rfl free

include spared in
theorem write_changed (h : d.write (p.child spare) content = .ok e) :
    Changed new [(goal (p.route d.start) ++ [spare], some content)] d e := by
  obtain ⟨start, _, _, _, free, shown⟩ := write_child spared h
  exact .one start free shown

include plain spared in
/-- A file is replaced if its way is there, no directory is in its place or in that of the spare
file, and the names of both are not too long. -/
theorem replace_succeeds (made : d.makeWay (p.child name) = (.ok (), d))
    (settled : d.Settled (p.route d.start)) (fits : (p.child name).Fits d.start)
    (spare_fits : (p.child spare).Fits d.start)
    (way : d.found (goal (p.route d.start)) = some none)
    (free : d.found (goal (p.route d.start) ++ [name]) ≠ some none)
    (spare_free : d.found (goal (p.route d.start) ++ [spare]) ≠ some none) :
    (d.replace (p.child name) (p.child spare) content).1 = .ok () := by
  obtain ⟨_, targeted⟩ := fileTarget_child spared settled spare_fits way spare_free
  obtain ⟨f, written⟩ : ∃ f, d.write (p.child spare) content = .ok f := by
    unfold write clearFile
    rw [targeted]
    exact ⟨_, rfl⟩
  have changed : Changed (fun _ => True) [(goal (p.route d.start) ++ [spare], some content)] d f :=
    write_changed spared written
  have still := changed.settled settled
  have there := (changed.edited _ _ List.lookup_cons_self).2
  have on_way := changed.dirs _ way
  have target_free : f.found (goal (p.route d.start) ++ [name]) ≠ some none := by
    rw [(write_child spared written).2.2.2.2.2]
    split
    · nofun
    · exact free
  rw [← changed.start] at still there on_way target_free fits spare_fits
  have located := locate_child spared still spare_fits (look_of_file there)
  obtain ⟨_, moved_to⟩ := fileTarget_child plain still fits on_way target_free
  obtain ⟨g, moved⟩ : ∃ g, f.move (p.child spare) (p.child name) = .ok g :=
    ⟨_, bind_eq_ok.mpr ⟨_, located, bind_eq_ok.mpr ⟨_, moved_to, rfl⟩⟩⟩
  unfold replace
  rw [made]
  dsimp only
  rw [written]
  dsimp only
  rw [moved]

include spared in
/-- The spare file is made before a file is replaced. -/
theorem replace_spare (h : d.replace (p.child name) (p.child spare) content = (.ok (), e)) :
    (p.child spare).Fits d.start := by
  have way := makeWay_changed d (p.child name)
  rcases replace_cases h with ⟨cause, failed, _⟩ | ⟨d', f, made, written, _⟩
  · cases failed
  · rw [made] at way
    exact way.start ▸ (write_child spared written).2.1

end Replace

end DropLedger.Disk
