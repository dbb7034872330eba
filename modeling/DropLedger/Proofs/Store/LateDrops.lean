import DropLedger.Proofs.Disk.Writable
import DropLedger.Proofs.Store.Growth

/-! Drops that are seen late. A kill that was just appended can be given more drops where the name
of the spare file is not too long; a log may have a name that leaves no room for the ending of it.
-/
namespace DropLedger.Store

variable {s t : Store} {entity key : String} {k : Kill} {ds : List Drop}

/-- The path of the spare file is looked up unless it or the name of the file is too long. -/
theorem spare_fits_iff (keyed : keyOf? entity = some key) (fits : s.Fits key) :
    (s.selection.sparePath key).Fits s.disk.start ↔
      (s.selection.sparePath key).raw.length ≤ pathLimit ∧
        (spareName key).length ≤ nameLimit := by
  have canonical := canonical_of_keyOf? keyed
  obtain ⟨taken, short⟩ := fits
  rw [Selection.logPath, Path.route_child (logName_plain canonical)] at short
  have whole : (s.selection.sparePath key).raw =
      (s.selection.logPath key).raw ++ Utf8.ofString ".tmp" := by
    rw [Selection.sparePath, spareName_eq canonical.named]
    exact Disk.child_append _ _ _
  have unzeroed : (s.selection.sparePath key).raw.contains 0 = false := by
    have log : (s.selection.logPath key).raw.contains 0 = false := by
      by_contra zero
      rw [Path.refusal?, if_pos (by simpa using zero)] at taken
      cases taken
    rw [whole, List.contains_append, log]
    decide
  have refusal : (s.selection.sparePath key).refusal? = none ↔
      (s.selection.sparePath key).raw.length ≤ pathLimit := by
    rw [Path.refusal?, unzeroed]
    simp
  unfold Path.Fits
  rw [refusal, Selection.sparePath, Path.route_child (spareName_plain canonical), short_append,
    short_singleton]
  exact and_congr_right fun _ => and_iff_right (short_append.mp short).1

/-- Where there are kills, drops are added to the last of them by replacing the log. -/
theorem amendLast_replaces {content : Bytes} (keyed : keyOf? entity = some key) (given : ds ≠ [])
    (readable : s.disk.read (s.selection.logPath key) = .ok content)
    (some : s.recorded key ≠ []) :
    (s.amendLast entity ds).1 =
      (s.replaceLog key (withDrops entity ds (s.recorded key))).1.isOk := by
  obtain ⟨_, _, same, ⟨_, unread⟩ | ⟨none, _⟩ | ⟨_, replaced⟩⟩ :=
    amendLast_does (s := s) keyed given
  · exact absurd readable (unread content)
  · exact absurd none some
  · obtain ⟨_, result⟩ := replace_eq (s := s) keyed (withDrops entity ds (s.recorded key))
    rw [same, replaced, result]

theorem append_result (keyed : keyOf? k.name = some key) :
    (s.append k).1 = (s.extendLog key k).1.isOk := by
  obtain ⟨_, result⟩ := append_eq (s := s) keyed
  rw [result]

theorem append_way (keyed : keyOf? k.name = some key) (done : s.append k = (true, t)) :
    t.disk.makeWay (t.selection.logPath key) = (.ok (), t.disk) := by
  obtain ⟨selection, extended⟩ := append_extends keyed done
  rw [selection]
  exact Disk.appendLine_way extended

/-- After a kill was appended, its log is a file in a directory that is there, and what is in the
place of the spare file is what was there before. -/
theorem append_leaves (sound : s.Sound) (keyed : keyOf? k.name = some key)
    (done : s.append k = (true, t)) :
    t.disk.found (goal (s.selection.directory.route s.disk.start)) = some none ∧
      (∃ content, t.disk.found (s.logAt key) = some (some content)) ∧
      t.disk.found (s.spareAt key) = s.disk.found (s.spareAt key) := by
  obtain ⟨_, edited⟩ := append_taken keyed done
  have way := Selection.settled_directory sound.proper sound.settled
  have there := (edited.disk.edited _ _ List.lookup_cons_self).2
  have dir := Disk.dir_of_found (ne_of_eq_of_ne there (Option.some_ne_none _))
  refine ⟨dir, ⟨_, there⟩, edited.disk.found_in way ?_⟩
  exact lookup_cons_ne _ _ (Selection.logAt_ne_spareAt key key).symm

theorem replace_follows_append (sound : s.Sound) (keyed : keyOf? k.name = some key)
    (free : s.disk.found (s.spareAt key) ≠ some none) (done : s.append k = (true, t))
    (ks : List Kill) :
    (t.replaceLog key ks).1.isOk = true ↔ (s.selection.sparePath key).Fits s.disk.start := by
  have canonical := canonical_of_keyOf? keyed
  have plain := logName_plain canonical
  have spared := spareName_plain canonical
  obtain ⟨fits, edited⟩ := append_taken keyed done
  obtain ⟨dir, ⟨content, there⟩, same⟩ := append_leaves sound keyed done
  have made := append_way keyed done
  have later := edited.disk.settled
    (Selection.settled_directory sound.proper sound.settled)
  unfold Fits at fits
  unfold logAt Selection.logAt at there
  unfold spareAt Selection.spareAt at same free
  rw [← same] at free
  rw [edited.selection] at made
  rw [← edited.disk.start] at dir there free later fits ⊢
  unfold replaceLog
  rw [edited.selection]
  constructor
  · intro replaced
    cases result : t.disk.replace (s.selection.logPath key) (s.selection.sparePath key)
        (Log.write ks) with
    | mk r e =>
      rw [result] at replaced
      cases r with
      | error cause => cases replaced
      | ok _ => exact Disk.replace_spare spared result
  · intro spare_fits
    rw [Selection.logPath, Selection.sparePath, Disk.replace_succeeds plain spared made later fits
      spare_fits dir (ne_of_eq_of_ne there (by simp)) free]
    rfl

theorem withDrops_snoc (entity : String) (ds : List Drop) (ks : List Kill) (k : Kill) :
    withDrops entity ds (ks ++ [k]) = ks ++ [k.addDrops ds] := by
  simp [withDrops]

/-- After a kill was appended, drops can be added to it if the spare file can be made. -/
theorem amend_result (sound : s.Sound) (keyed : keyOf? k.name = some key)
    (free : s.disk.found (s.spareAt key) ≠ some none) (given : ds ≠ [])
    (done : s.append k = (true, t)) :
    (t.amendLast k.name ds).1 = true ↔ (s.selection.sparePath key).Fits s.disk.start := by
  have appended := append_loads sound done k.name
  rw [if_pos rfl] at appended
  obtain ⟨fits, edited⟩ := append_taken keyed done
  have way := Selection.settled_directory sound.proper sound.settled
  have readable := edited.read_log (keyOf?_key keyed) fits way
  have some : t.recorded key ≠ [] := by
    rw [← load_recorded keyed, appended]
    simp
  rw [amendLast_replaces keyed given readable some]
  exact replace_follows_append sound keyed free done _

/-- After a kill was appended, drops are added to it if and only if the name of the spare file is
not too long; otherwise the log is as it was. No directory may be in the place of the spare file,
and its path may not be too long. The root has to be where its path leads. -/
theorem amend_follows_append (proper : s.selection.Proper)
    (settled : s.disk.Settled (s.selection.root.route s.disk.start))
    (keyed : keyOf? k.name = some key) (free : s.disk.found (s.spareAt key) ≠ some none)
    (path : (s.selection.sparePath key).raw.length ≤ pathLimit) (given : ds ≠ [])
    (done : s.append k = (true, t)) :
    ((t.amendLast k.name ds).1 = true ↔ (spareName key).length ≤ nameLimit) ∧
      ((t.amendLast k.name ds).2.load k.name).1 = (s.load k.name).1 ++
        [if (spareName key).length ≤ nameLimit then k.addDrops ds else k] := by
  have sound : s.Sound := ⟨proper, settled⟩
  have later : t.Sound := (perform_sound sound (r := .append k) done).1
  have appended := append_loads sound done k.name
  rw [if_pos rfl] at appended
  have result : (t.amendLast k.name ds).1 = true ↔ (spareName key).length ≤ nameLimit := by
    rw [amend_result sound keyed free given done, spare_fits_iff keyed (append_taken keyed done).1,
      and_iff_right path]
  refine ⟨result, ?_⟩
  cases amended : t.amendLast k.name ds with
  | mk b u =>
    rw [amended] at result
    cases b with
    | true =>
      rw [if_pos (result.mp rfl), amendLast_loads later keyed given amended, appended,
        withDrops_snoc]
    | false =>
      have failed : t.perform (.amendLast k.name ds) = (false, u) := amended
      rw [if_neg (mt result.mpr Bool.false_ne_true), failed_loads later rfl failed, appended]

theorem cutShort_amended_late :
    ((cutShort.append (Kill.ofEvent "AB" unknown [])).2.amendLast "AB" [bone]).1 = true ∧
      (((cutShort.append (Kill.ofEvent "AB" unknown [])).2.amendLast "AB" [bone]).2.load "AB").1 =
        [Kill.ofEvent "AB" unknown [bone]] := by
  have settled := settled_of_isDir (d := cutShort.disk) (p := cutShort.selection.root) (by decide)
  have done : cutShort.append (Kill.ofEvent "AB" unknown []) =
      (true, (cutShort.append (Kill.ofEvent "AB" unknown [])).2) := by
    rw [show true = (cutShort.append (Kill.ofEvent "AB" unknown [])).1 by decide +kernel]
  have short : (spareName "ab").length ≤ nameLimit := by decide +kernel
  have keyed : keyOf? (Kill.ofEvent "AB" unknown []).name = some "ab" := by decide +kernel
  have given : [bone] ≠ [] := List.cons_ne_nil _ _
  obtain ⟨result, loaded⟩ := amend_follows_append (s := cutShort) nofun settled keyed
    (by decide +kernel) (by decide +kernel) given done
  refine ⟨result.mpr short, loaded.trans ?_⟩
  rw [if_pos short]
  decide +kernel

/-- The name of its log has 252 bytes. -/
def longNamed : Kill := Kill.ofEvent (String.ofList (List.replicate 62 '🐍')) unknown []

theorem longNamed_keyed : keyOf? longNamed.name = some longNamed.name := by
  refine keyOf?_of_canonical ?_
  have same : longNamed.name.toList = List.replicate 62 '🐍' := String.toList_ofList
  rw [same]
  have all : ∀ {P : Char → Prop}, P '🐍' → ∀ c ∈ List.replicate 62 '🐍', P c :=
    fun h c member => List.eq_of_mem_replicate member ▸ h
  have visible := all (P := fun c => Text.isBlank c = false) (by decide)
  refine ⟨⟨?_, ?_⟩, all ⟨by decide, by decide +kernel⟩, all (by decide), by decide +kernel⟩
  · exact fun c first => visible c (List.mem_of_mem_head? first)
  · exact fun c last => visible c (List.mem_of_mem_getLast? last)

/-- Where the name of a log leaves no room for the ending of the spare file, kills are appended but
drops cannot be added to them. -/
theorem longNamed_unamended :
    (cutShort.append longNamed).1 = true ∧
      cutShort.disk.found (cutShort.spareAt longNamed.name) = none ∧
      ((cutShort.append longNamed).2.amendLast longNamed.name [bone]).1 = false := by
  have settled := settled_of_isDir (d := cutShort.disk) (p := cutShort.selection.root) (by decide)
  have sound : cutShort.Sound := ⟨nofun, settled⟩
  have long : ¬(spareName longNamed.name).length ≤ nameLimit := by decide +kernel
  have free : cutShort.disk.found (cutShort.spareAt longNamed.name) = none := by decide +kernel
  have appended : (cutShort.append longNamed).1 = true := by
    rw [append_result longNamed_keyed]
    decide +kernel
  cases done : cutShort.append longNamed with
  | mk b t =>
    rw [done] at appended
    obtain rfl : b = true := appended
    have given : [bone] ≠ [] := List.cons_ne_nil _ _
    have result := amend_result sound longNamed_keyed (by rw [free]; nofun) given done
    rw [spare_fits_iff longNamed_keyed (append_taken longNamed_keyed done).1] at result
    refine ⟨rfl, free, ?_⟩
    exact Bool.eq_false_iff.mpr fun amended => long (result.mp amended).2

end DropLedger.Store
