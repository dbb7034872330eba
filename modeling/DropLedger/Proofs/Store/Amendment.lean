import DropLedger.Proofs.Store.LateDrops
import DropLedger.Proofs.Store.Migration

/-! What adding drops makes of a log. Kills are written anew, one to a line, with the drops added to
the last of them; where no line holds a kill, the bytes stay and the drops follow them as a kill of
their own. To add drops in two parts comes to the same as to add them at once. -/
namespace DropLedger.Store

variable {s t u v : Store} {entity key : String} {ds es : List Drop}

theorem read_of_recorded (some : s.recorded key ≠ []) :
    ∃ content, s.disk.read (s.selection.logPath key) = .ok content := by
  by_contra unread
  exact some (recorded_unread fun content read => unread ⟨content, read⟩)

/-- The log can be read after drops were added, also where its directory was not there before. -/
theorem amendLast_stored (given : ds ≠ []) (done : s.amendLast entity ds = (true, t)) :
    ∃ key, keyOf? entity = some key ∧ s.Fits key ∧ t.selection = s.selection ∧
      t.disk.read (s.selection.logPath key) =
        .ok (if s.recorded key = [] then
          s.bytesOf key ++
            freshLine (s.bytesOf key) (Log.write [Kill.ofEvent (Text.trim entity) unknown ds])
        else Log.write (withDrops entity ds (s.recorded key))) := by
  cases keyed : keyOf? entity with
  | none =>
    obtain ⟨_, refused⟩ := amendLast_unkeyed (s := s) keyed given
    rw [refused] at done
    cases done
  | some key =>
    obtain ⟨⟨b, e⟩, notices, same, ⟨nothing, _⟩ | ⟨none, added⟩ | ⟨some, replaced⟩⟩ :=
      amendLast_does (s := s) keyed given
    · cases nothing
      rw [same] at done
      cases done
    · rw [same] at done
      cases done
      have trimmed : keyOf? (Kill.ofEvent (Text.trim entity) unknown ds).name = some key :=
        (keyOf?_trim entity).trans keyed
      have selection := (append_extends trimmed added.symm).1
      have stored := append_stored trimmed added.symm
      rw [selection] at stored
      refine ⟨key, rfl, (append_taken trimmed added.symm).1, selection, ?_⟩
      rw [if_pos none]
      exact stored
    · rw [same] at done
      cases done
      rcases replace_done replaced.symm with ⟨failed, _⟩ | ⟨_, own, keyed', fits, edited⟩
      · cases failed
      · obtain rfl := Option.some.inj (keyed.symm.trans keyed')
        obtain ⟨content, read⟩ := read_of_recorded some
        have way := Disk.settled_of_read (logName_plain (canonical_of_keyOf? keyed)) read
        have stored := edited.read_log (keyOf?_key keyed) fits way
        rw [edited.selection] at stored
        refine ⟨key, rfl, fits, edited.selection, ?_⟩
        rw [if_neg some]
        exact stored

/-- What is loaded after drops were added. Without kills to add to, that is what the file had at the
place where its path leads, and the drops as a kill of their own. -/
theorem amendLast_loaded (keyed : keyOf? entity = some key) (given : ds ≠ [])
    (done : s.amendLast entity ds = (true, t)) :
    (t.load entity).1 =
      if s.recorded key = [] then
        (Log.read (s.bytesOf key)).kills ++ [Kill.ofEvent (Text.trim entity) unknown ds]
      else withDrops entity ds (s.recorded key) := by
  obtain ⟨own, keyed', _, selection, stored⟩ := amendLast_stored given done
  obtain rfl := Option.some.inj (keyed.symm.trans keyed')
  rw [← selection] at stored
  rw [load_read keyed, stored]
  dsimp only
  split
  · exact Log.kills_freshLine _ _
  · exact Log.kills_write _

theorem addDrops_addDrops (k : Kill) (ds es : List Drop) :
    (k.addDrops ds).addDrops es = k.addDrops (ds ++ es) := by
  simp only [Kill.addDrops, List.append_assoc]

/-- Drops that are added one part after the other are loaded as if they had been added at once. -/
theorem amendLast_composed (first : s.amendLast entity ds = (true, t))
    (second : t.amendLast entity es = (true, u))
    (whole : s.amendLast entity (ds ++ es) = (true, v)) :
    (u.load entity).1 = (v.load entity).1 := by
  by_cases some : ds = []
  · subst some
    cases first
    rw [List.nil_append, second] at whole
    cases whole
    rfl
  by_cases more : es = []
  · subst more
    cases second
    rw [List.append_nil, first] at whole
    cases whole
    rfl
  obtain ⟨key, keyed, _⟩ := amendLast_stored some first
  have together : ds ++ es ≠ [] := List.append_ne_nil_of_left_ne_nil some es
  -- The first part leaves a kill, so the second is added to one in either case.
  have between : t.recorded key = _ :=
    (load_recorded keyed).symm.trans (amendLast_loaded keyed some first)
  rw [amendLast_loaded keyed more second, amendLast_loaded keyed together whole, between]
  by_cases none : s.recorded key = []
  · rw [if_pos none, if_pos none, if_neg (by simp), withDrops_snoc]
    rfl
  · obtain ⟨front, last, kills⟩ := (List.eq_nil_or_concat' (s.recorded key)).resolve_left none
    rw [if_neg none, if_neg none, kills, withDrops_snoc, withDrops_snoc, if_neg (by simp),
      withDrops_snoc, addDrops_addDrops]

/-- Drops that are added to an entity settle its log. If kills were loaded, the log is one line in
the current layout for each of them, in order, with the drops after those of the last; the lines
that held no kill are gone. If none were loaded, the bytes of the log stay and the drops follow
them, on a line of their own, as a kill that has no more than the name of the entity. Either way
there is nothing left to migrate, and drops that are added in two parts are loaded as if they had
been added at once. A log that cannot be read counts as empty if the root is where its path leads:
one that is there is, and so is one whose path leads out of no directory. -/
theorem late_drops_settle_log (proper : s.selection.Proper) (entity : String) :
    (∀ ds t, ds ≠ [] → s.amendLast entity ds = (true, t) →
      ∃ key path, keyOf? entity = some key ∧ s.selection.entityFile entity = .ok path ∧
        t.selection = s.selection ∧
        (∀ front last, (s.load entity).1 = front ++ [last] →
          ∃ content, content = Log.write (front ++ [last.addDrops ds]) ∧
            t.disk.read path = .ok content ∧
            (Log.read content).stored = (front ++ [last.addDrops ds]).map (⟨·, .current⟩) ∧
            (Log.read content).skipped = 0 ∧ (t.needsMigration entity).1 = false) ∧
        ((s.load entity).1 = [] →
          ∃ content, content = s.bytesOf key ++ freshLine (s.bytesOf key)
              (Log.write [Kill.ofEvent (Text.trim entity) unknown ds]) ∧
            t.disk.read path = .ok content ∧
            ((∃ old, s.disk.read path = .ok old) ∨
                s.disk.Settled (s.selection.root.route s.disk.start) →
              s.bytesOf key = s.disk.textOf path ∧
                (Log.read content).stored =
                  [⟨Kill.ofEvent (Text.trim entity) unknown ds, .current⟩] ∧
                (Log.read content).skipped = (Log.read (s.disk.textOf path)).skipped ∧
                (t.needsMigration entity).1 = false))) ∧
      ∀ ds es t u v, s.amendLast entity ds = (true, t) → t.amendLast entity es = (true, u) →
        s.amendLast entity (ds ++ es) = (true, v) → (u.load entity).1 = (v.load entity).1 := by
  refine ⟨?_, fun ds es t u v => amendLast_composed⟩
  intro ds t given done
  obtain ⟨key, keyed, fits, selection, stored⟩ := amendLast_stored given done
  have path : s.selection.entityFile entity = .ok (s.selection.logPath key) := by
    rw [Selection.entityFile, keyOf_eq_ok.mpr keyed]
    rfl
  have older : ∀ {content}, t.disk.read (s.selection.logPath key) = .ok content →
      (t.needsMigration entity).1 = ((Log.read content).older != 0) := by
    intro content read
    rw [needsMigration_eq, logOf_read keyed (selection ▸ read)]
  refine ⟨key, _, keyed, path, selection, ?_, ?_⟩
  · intro front last loaded
    rw [load_recorded keyed] at loaded
    rw [if_neg (by simp [loaded]), loaded, withDrops_snoc] at stored
    obtain ⟨whole, nothing⟩ := Log.read_write (front ++ [last.addDrops ds])
    refine ⟨_, rfl, stored, whole, nothing, ?_⟩
    rw [older stored, Log.older_write]
    rfl
  · intro none
    have unread : s.recorded key = [] := (load_recorded keyed).symm.trans none
    rw [if_pos unread] at stored
    refine ⟨_, rfl, stored, ?_⟩
    intro there
    have way : s.disk.Settled (s.selection.directory.route s.disk.start) := by
      rcases there with ⟨old, read⟩ | settled
      · exact Disk.settled_of_read (logName_plain (canonical_of_keyOf? keyed)) read
      · exact Selection.settled_directory proper settled
    have held := textOf_bytesOf keyed fits way
    have none_held : (Log.read (s.bytesOf key)).kills = [] := by
      rw [← held]
      exact unread
    obtain ⟨added, skipped⟩ :=
      Log.read_lone none_held (Kill.ofEvent (Text.trim entity) unknown ds)
    refine ⟨held.symm, added, by rw [held]; exact skipped, ?_⟩
    rw [older stored, Log.older, added]
    rfl

theorem mixedLines_amended :
    (mixedLines.amendLast "AB " [bone]).2.disk.read ⟨[0x78, slash] ++ logName "ab"⟩ =
        .ok (Log.write [Kill.ofEvent "Ab" unknown [], Kill.ofEvent "AB" unknown [bone]]) ∧
      ((mixedLines.amendLast "AB " [bone]).2.needsMigration "AB ").1 = false ∧
      (cutShort.amendLast "Ab " [bone]).2.disk.read ⟨[0x78, slash] ++ logName "ab"⟩ =
        .ok ([0x7B, 0x22, newline] ++ Log.write [Kill.ofEvent "Ab" unknown [bone]]) ∧
      ((cutShort.amendLast "Ab " [bone]).2.needsMigration "Ab ").1 = false ∧
      (((cutShort.amendLast "Ab " [bone]).2.amendLast "Ab " [bone]).2.load "Ab ").1 =
        ((cutShort.amendLast "Ab " [bone, bone]).2.load "Ab ").1 := by
  have given : [bone] ≠ [] := List.cons_ne_nil _ _
  have place : ∀ {s : Store} {path entity}, s.selection.entityFile entity = .ok path →
      s.selection.entityFile entity = .ok ⟨[0x78, slash] ++ logName "ab"⟩ →
      path = ⟨[0x78, slash] ++ logName "ab"⟩ := by
    intro s path entity own same
    exact Except.ok.inj (own.symm.trans same)
  obtain ⟨written, _⟩ := late_drops_settle_log (s := mixedLines) nofun "AB "
  obtain ⟨_, path, _, own, _, rewritten, _⟩ := written [bone] (mixedLines.amendLast "AB " [bone]).2
    given (by rw [show true = (mixedLines.amendLast "AB " [bone]).1 by decide +kernel])
  obtain ⟨_, rfl, read, _, _, settled⟩ := rewritten [Kill.ofEvent "Ab" unknown []]
    (Kill.ofEvent "AB" unknown []) (by decide +kernel)
  rw [place own (by decide +kernel)] at read
  obtain ⟨written, composed⟩ := late_drops_settle_log (s := cutShort) nofun "Ab "
  have first : cutShort.amendLast "Ab " [bone] = (true, (cutShort.amendLast "Ab " [bone]).2) := by
    rw [show true = (cutShort.amendLast "Ab " [bone]).1 by decide +kernel]
  obtain ⟨key, path', keyed, own', _, _, added⟩ := written [bone] _ given first
  obtain ⟨_, rfl, read', rest⟩ := added (by decide +kernel)
  rw [place own' (by decide +kernel)] at read' rest
  obtain rfl : key = "ab" := Option.some.inj (keyed.symm.trans (by decide +kernel))
  obtain ⟨_, _, _, settled'⟩ := rest (.inr (settled_of_isDir (by decide)))
  refine ⟨read, settled, read', settled', ?_⟩
  refine composed [bone] [bone] _ _ _ first ?_ ?_
  · rw [show true = ((cutShort.amendLast "Ab " [bone]).2.amendLast "Ab " [bone]).1 by
      decide +kernel]
  · rw [show true = (cutShort.amendLast "Ab " ([bone] ++ [bone])).1 by decide +kernel]
    rfl

/-- The root is reached through a directory that is missing, and a log there has a kill in the older
layout. -/
def olderDetour : Store where
  disk := ⟨.dir [([0x79], .dir [(logName "a", .file
    (Utf8.ofString "\x7b\"npcName\":\"A\"\x7d" ++ [newline]))])], [], []⟩
  selection := detour.selection

/-- The missing directory is made, and drops are added to a log that was not found before. -/
theorem olderDetour_found :
    (olderDetour.load "a").1 = [] ∧ (olderDetour.amendLast "a" [bone]).1 = true ∧
      ((olderDetour.amendLast "a" [bone]).2.needsMigration "a").1 = true := by
  refine ⟨by decide +kernel, by decide +kernel, by decide +kernel⟩

end DropLedger.Store
