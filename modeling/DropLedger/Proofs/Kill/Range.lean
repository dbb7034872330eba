import DropLedger.Proofs.Json.Rereading
import DropLedger.Proofs.Kill.Log
import DropLedger.Proofs.Kill.Older

/-! Numbers beyond the limits. A kill with integers of any size is written in either layout; its
line is read just when every integer is within its limits, and then with exactly these integers. -/
namespace DropLedger
open Json

/-- A drop with integers of any size. -/
structure WideDrop where
  name : String
  id : Int
  quantity : Int
  price : Int

/-- A kill with integers of any size. -/
structure WideKill where
  name : String
  id : Int
  level : Int
  killCount : Int
  drops : List WideDrop

namespace WideDrop

def Fits (d : WideDrop) : Prop :=
  (-2 ^ 31 ≤ d.id ∧ d.id < 2 ^ 31) ∧ (0 ≤ d.quantity ∧ d.quantity < 2 ^ 32) ∧
    (-2 ^ 63 ≤ d.price ∧ d.price < 2 ^ 63)

def current (d : WideDrop) : Value :=
  .object [("name", .text d.name), ("id", .number (.whole d.id)),
    ("quantity", .number (.whole d.quantity)), ("price", .number (.whole d.price))]

def older (d : WideDrop) : Value :=
  .object [("id", .number (.whole d.id)), ("name", .text d.name),
    ("amount", .number (.whole d.quantity)), ("price", .number (.whole d.price))]

end WideDrop

namespace WideKill

def Fits (k : WideKill) : Prop :=
  (-2 ^ 31 ≤ k.id ∧ k.id < 2 ^ 31) ∧ (-2 ^ 31 ≤ k.level ∧ k.level < 2 ^ 31) ∧
    (-2 ^ 31 ≤ k.killCount ∧ k.killCount < 2 ^ 31) ∧ ∀ d ∈ k.drops, d.Fits

def current (k : WideKill) : Value :=
  .object [("id", .number (.whole k.id)), ("name", .text k.name),
    ("level", .number (.whole k.level)), ("killCount", .number (.whole k.killCount)),
    ("drops", .list (k.drops.map WideDrop.current))]

def older (k : WideKill) : Value :=
  .object [("npcID", .number (.whole k.id)), ("npcName", .text k.name),
    ("npcLevel", .number (.whole k.level)), ("killCount", .number (.whole k.killCount)),
    ("drops", .list (k.drops.map WideDrop.older))]

end WideKill

def Drop.wide (d : Drop) : WideDrop := ⟨d.name, d.id.val, d.quantity.val, d.price.val⟩

def Kill.wide (k : Kill) : WideKill :=
  ⟨k.name, k.id.val, k.level.val, k.killCount.val, k.drops.map Drop.wide⟩

theorem finds_signed32 {n : Int} {a : Signed32} :
    Finds decodeSigned32 (.number (.whole n)) a ↔ a.val = n :=
  finds_integer (by decide) (by decide)

theorem finds_unsigned32 {n : Int} {a : Unsigned32} :
    Finds decodeUnsigned32 (.number (.whole n)) a ↔ a.val = n :=
  finds_integer (by decide) (by decide)

theorem finds_signed64 {n : Int} {a : Signed64} :
    Finds decodeSigned64 (.number (.whole n)) a ↔ a.val = n :=
  finds_integer (by decide) (by decide)

namespace Current

theorem finds_drop (d : Drop) (w : WideDrop) :
    Finds dropLayout.decoder w.current d ↔ d.wide = w := by
  constructor
  · intro h
    obtain ⟨t, run, done⟩ := finds_object.mp h
    obtain ⟨name, sameName, run⟩ := (runs_field rfl rfl).mp run
    obtain ⟨id, sameId, run⟩ := (runs_field rfl rfl).mp run
    obtain ⟨quantity, sameQuantity, run⟩ := (runs_field rfl rfl).mp run
    obtain ⟨price, samePrice, run⟩ := (runs_field rfl rfl).mp run
    cases runs_nil.mp run
    cases Option.some.inj done
    rw [Drop.wide, finds_text.mp sameName, finds_signed32.mp sameId,
      finds_unsigned32.mp sameQuantity, finds_signed64.mp samePrice]
  · rintro rfl
    refine finds_object.mpr ⟨⟨some d.name, some d.id, some d.quantity, some d.price⟩, ?_, rfl⟩
    exact (runs_field rfl rfl).mpr ⟨d.name, finds_text.mpr rfl, (runs_field rfl rfl).mpr
      ⟨d.id, finds_signed32.mpr rfl, (runs_field rfl rfl).mpr
        ⟨d.quantity, finds_unsigned32.mpr rfl, (runs_field rfl rfl).mpr
          ⟨d.price, finds_signed64.mpr rfl, runs_nil.mpr rfl⟩⟩⟩⟩

theorem finds_kill (k : Kill) (w : WideKill) :
    Finds killLayout.decoder w.current k ↔ k.wide = w := by
  have finds_drops := finds_list finds_drop
  constructor
  · intro h
    obtain ⟨t, run, done⟩ := finds_object.mp h
    obtain ⟨id, sameId, run⟩ := (runs_field rfl rfl).mp run
    obtain ⟨name, sameName, run⟩ := (runs_field rfl rfl).mp run
    obtain ⟨level, sameLevel, run⟩ := (runs_field rfl rfl).mp run
    obtain ⟨killCount, sameCount, run⟩ := (runs_field rfl rfl).mp run
    obtain ⟨drops, sameDrops, run⟩ := (runs_field rfl rfl).mp run
    cases runs_nil.mp run
    cases Option.some.inj done
    rw [Kill.wide, finds_text.mp sameName, finds_signed32.mp sameId, finds_signed32.mp sameLevel,
      finds_signed32.mp sameCount, (finds_drops _ _).mp sameDrops]
  · rintro rfl
    refine finds_object.mpr
      ⟨⟨some k.id, some k.name, some k.level, some k.killCount, some k.drops⟩, ?_, rfl⟩
    exact (runs_field rfl rfl).mpr ⟨k.id, finds_signed32.mpr rfl, (runs_field rfl rfl).mpr
      ⟨k.name, finds_text.mpr rfl, (runs_field rfl rfl).mpr
        ⟨k.level, finds_signed32.mpr rfl, (runs_field rfl rfl).mpr
          ⟨k.killCount, finds_signed32.mpr rfl, (runs_field rfl rfl).mpr
            ⟨k.drops, (finds_drops _ _).mpr rfl, runs_nil.mpr rfl⟩⟩⟩⟩⟩

end Current

namespace Older

theorem finds_drop (d : Drop) (w : WideDrop) : Finds dropLayout.decoder w.older d ↔ d.wide = w := by
  constructor
  · intro h
    obtain ⟨t, run, done⟩ := finds_object.mp h
    obtain ⟨id, sameId, run⟩ := (runs_field rfl rfl).mp run
    obtain ⟨name, sameName, run⟩ := (runs_field rfl rfl).mp run
    obtain ⟨amount, sameAmount, run⟩ := (runs_field rfl rfl).mp run
    obtain ⟨price, samePrice, run⟩ := (runs_field rfl rfl).mp run
    cases runs_nil.mp run
    cases Option.some.inj done
    rw [Drop.wide, Option.getD_some, finds_text.mp sameName, finds_signed32.mp sameId,
      Option.getD_some, finds_unsigned32.mp sameAmount, Option.getD_some,
      finds_signed64.mp samePrice]
  · rintro rfl
    refine finds_object.mpr ⟨⟨some d.name, some d.id, some d.quantity, some d.price⟩, ?_, rfl⟩
    exact (runs_field rfl rfl).mpr ⟨d.id, finds_signed32.mpr rfl, (runs_field rfl rfl).mpr
      ⟨d.name, finds_text.mpr rfl, (runs_field rfl rfl).mpr
        ⟨d.quantity, finds_unsigned32.mpr rfl, (runs_field rfl rfl).mpr
          ⟨d.price, finds_signed64.mpr rfl, runs_nil.mpr rfl⟩⟩⟩⟩

theorem finds_kill (k : Kill) (w : WideKill) : Finds killLayout.decoder w.older k ↔ k.wide = w := by
  have finds_drops := finds_list finds_drop
  constructor
  · intro h
    obtain ⟨t, run, done⟩ := finds_object.mp h
    obtain ⟨id, sameId, run⟩ := (runs_field rfl rfl).mp run
    obtain ⟨name, sameName, run⟩ := (runs_field rfl rfl).mp run
    obtain ⟨level, sameLevel, run⟩ := (runs_field rfl rfl).mp run
    obtain ⟨killCount, sameCount, run⟩ := (runs_field rfl rfl).mp run
    obtain ⟨drops, sameDrops, run⟩ := (runs_field rfl rfl).mp run
    cases runs_nil.mp run
    cases Option.some.inj done
    simp only [Kill.wide, Option.getD_some]
    rw [finds_text.mp sameName, finds_signed32.mp sameId, finds_signed32.mp sameLevel,
      finds_signed32.mp sameCount, (finds_drops _ _).mp sameDrops]
  · rintro rfl
    refine finds_object.mpr
      ⟨⟨some k.id, some k.name, some k.level, some k.killCount, some k.drops⟩, ?_, rfl⟩
    exact (runs_field rfl rfl).mpr ⟨k.id, finds_signed32.mpr rfl, (runs_field rfl rfl).mpr
      ⟨k.name, finds_text.mpr rfl, (runs_field rfl rfl).mpr
        ⟨k.level, finds_signed32.mpr rfl, (runs_field rfl rfl).mpr
          ⟨k.killCount, finds_signed32.mpr rfl, (runs_field rfl rfl).mpr
            ⟨k.drops, (finds_drops _ _).mpr rfl, runs_nil.mpr rfl⟩⟩⟩⟩⟩

/-- Without a name under its key, no object is a kill of the older layout. -/
theorem kill_refused {es : List (String × Value)} (absent : ∀ e ∈ es, e.1 ≠ "npcName") :
    killLayout.decoder.ofValue (.object es) = none := by
  refine Layout.refused_unnamed kill_independent (List.mem_cons_of_mem _ List.mem_cons_self) rfl ?_
    absent
  intro s none
  have unknown : s.name = Option.none := by simpa [Field.of] using none
  simp [killLayout, unknown, need]
  rfl

end Older

namespace WideDrop

theorem fits_iff (w : WideDrop) : w.Fits ↔ ∃ d : Drop, d.wide = w := by
  constructor
  · rintro ⟨id, quantity, price⟩
    exact ⟨⟨w.name, ⟨w.id, id.1, Int.le_sub_one_of_lt id.2⟩,
      ⟨w.quantity, quantity.1, Int.le_sub_one_of_lt quantity.2⟩,
      ⟨w.price, price.1, Int.le_sub_one_of_lt price.2⟩⟩, rfl⟩
  · rintro ⟨d, rfl⟩
    exact ⟨⟨d.id.lo_le, Int.lt_of_le_sub_one d.id.le_hi⟩,
      ⟨d.quantity.lo_le, Int.lt_of_le_sub_one d.quantity.le_hi⟩,
      d.price.lo_le, Int.lt_of_le_sub_one d.price.le_hi⟩

end WideDrop

namespace WideKill

theorem fits_iff (w : WideKill) : w.Fits ↔ ∃ k : Kill, k.wide = w := by
  constructor
  · rintro ⟨id, level, killCount, drops⟩
    have each : w.drops ∈ Set.range (List.map Drop.wide) := by
      rw [Set.range_list_map]
      exact fun d member => d.fits_iff.mp (drops d member)
    obtain ⟨ds, same⟩ := each
    refine ⟨⟨⟨w.id, id.1, Int.le_sub_one_of_lt id.2⟩, w.name,
      ⟨w.level, level.1, Int.le_sub_one_of_lt level.2⟩,
      ⟨w.killCount, killCount.1, Int.le_sub_one_of_lt killCount.2⟩, ds⟩, ?_⟩
    rw [Kill.wide, same]
  · rintro ⟨k, rfl⟩
    refine ⟨⟨k.id.lo_le, Int.lt_of_le_sub_one k.id.le_hi⟩,
      ⟨k.level.lo_le, Int.lt_of_le_sub_one k.level.le_hi⟩,
      ⟨k.killCount.lo_le, Int.lt_of_le_sub_one k.killCount.le_hi⟩, ?_⟩
    intro d member
    obtain ⟨e, _, same⟩ := List.mem_map.mp member
    exact d.fits_iff.mpr ⟨e, same⟩

theorem drop_writable {write : WideDrop → Value} {depth : Nat}
    (each : ∀ d, Writable depth (write d)) (ds : List WideDrop) :
    Writable (depth + 1) (.list (ds.map write)) := by
  refine .list fun v member => ?_
  obtain ⟨d, _, rfl⟩ := List.mem_map.mp member
  exact each d

theorem current_writable (w : WideKill) (depth : Nat) : Writable (depth + 3) w.current := by
  have drop : ∀ d : WideDrop, Writable (depth + 1) d.current := by
    intro d
    refine .object ?_
    simp only [List.forall_mem_cons, List.not_mem_nil, false_implies, implies_true, and_true]
    exact ⟨.text _, .whole _, .whole _, .whole _⟩
  refine .object ?_
  simp only [List.forall_mem_cons, List.not_mem_nil, false_implies, implies_true, and_true]
  exact ⟨.whole _, .text _, .whole _, .whole _, drop_writable drop w.drops⟩

theorem older_writable (w : WideKill) (depth : Nat) : Writable (depth + 3) w.older := by
  have drop : ∀ d : WideDrop, Writable (depth + 1) d.older := by
    intro d
    refine .object ?_
    simp only [List.forall_mem_cons, List.not_mem_nil, false_implies, implies_true, and_true]
    exact ⟨.whole _, .text _, .whole _, .whole _⟩
  refine .object ?_
  simp only [List.forall_mem_cons, List.not_mem_nil, false_implies, implies_true, and_true]
  exact ⟨.whole _, .text _, .whole _, .whole _, drop_writable drop w.drops⟩

end WideKill

/-- The keys stay when an object is written and read again. -/
theorem rereadEntries_keys {es fs : List (String × Value)} (read : rereadEntries es = .ok fs) :
    fs.map Prod.fst = es.map Prod.fst := by
  induction es generalizing fs with
  | nil =>
    cases read
    rfl
  | cons e es ih =>
    obtain ⟨w, _, read⟩ := bind_eq_ok.mp read
    obtain ⟨others, rest, same⟩ := bind_eq_ok.mp read
    cases same
    rw [List.map_cons, List.map_cons, ih rest]

theorem object_trimChars (es : List (String × Value)) :
    Text.trimChars (Value.object es).compact = (Value.object es).compact := by
  rw [Value.compact]
  exact Text.trimChars_of_trimmed (braces_trimmed _)

/-- What is read of the line of an object depends on the object once it was written and read again.
-/
theorem ofLine_compact {es : List (String × Value)} (writable : Writable maxDepth (.object es))
    {s : StoredKill} :
    StoredKill.ofLine (Value.object es).compact = .ok s ↔
      ∃ fs, rereadEntries es = .ok fs ∧ StoredKill.ofValue? (.object fs) = some s := by
  have read := readValue_compact writable endsNumber_nil
  rw [List.append_nil] at read
  rw [ofLine_eq_ok, object_trimChars, read]
  constructor
  · rintro ⟨v, rest, value, stored, _⟩
    obtain ⟨w, reread, same⟩ := map_eq_ok.mp value
    cases same
    obtain ⟨fs, entries, rfl⟩ := map_eq_ok.mp reread
    exact ⟨fs, entries, stored⟩
  · rintro ⟨fs, entries, stored⟩
    have reread : (Value.object es).reread = .ok (.object fs) := map_eq_ok.mpr ⟨fs, entries, rfl⟩
    exact ⟨.object fs, [], by rw [reread]; rfl, stored, rfl⟩

theorem absent_reread {es fs : List (String × Value)} (read : rereadEntries es = .ok fs)
    (key : String) (absent : key ∉ es.map Prod.fst) : ∀ f ∈ fs, f.1 ≠ key := by
  rintro f member rfl
  rw [← rereadEntries_keys read] at absent
  exact absent (List.mem_map_of_mem member)

theorem ofLine_current (w : WideKill) (s : StoredKill) :
    StoredKill.ofLine w.current.compact = .ok s ↔ s.format = .current ∧ s.kill.wide = w := by
  rw [WideKill.current, ofLine_compact (w.current_writable 124)]
  constructor
  · rintro ⟨fs, read, stored⟩
    have unnamed := Older.kill_refused (absent_reread read "npcName" (by simp))
    unfold StoredKill.ofValue? at stored
    split at stored
    · rename_i k found
      cases stored
      exact ⟨rfl, (Current.finds_kill k w).mp ⟨_, map_eq_ok.mpr ⟨fs, read, rfl⟩, found⟩⟩
    · rw [unnamed] at stored
      cases stored
  · rintro ⟨format, wide⟩
    obtain ⟨v, reread, found⟩ := (Current.finds_kill s.kill w).mpr wide
    obtain ⟨fs, read, rfl⟩ := map_eq_ok.mp reread
    refine ⟨fs, read, ?_⟩
    rw [StoredKill.ofValue?, found, ← format]

theorem ofLine_older (w : WideKill) (s : StoredKill) :
    StoredKill.ofLine w.older.compact = .ok s ↔ s.format = .older ∧ s.kill.wide = w := by
  rw [WideKill.older, ofLine_compact (w.older_writable 124)]
  constructor
  · rintro ⟨fs, read, stored⟩
    have refused := Current.kill_refused (absent_reread read "id" (by simp))
    rw [StoredKill.ofValue?, refused] at stored
    obtain ⟨k, found, rfl⟩ := Option.map_eq_some_iff.mp stored
    exact ⟨rfl, (Older.finds_kill k w).mp ⟨_, map_eq_ok.mpr ⟨fs, read, rfl⟩, found⟩⟩
  · rintro ⟨format, wide⟩
    obtain ⟨v, reread, found⟩ := (Older.finds_kill s.kill w).mpr wide
    obtain ⟨fs, read, rfl⟩ := map_eq_ok.mp reread
    have refused := Current.kill_refused (absent_reread read "id" (by simp))
    refine ⟨fs, read, ?_⟩
    rw [StoredKill.ofValue?, refused, found, ← format]
    rfl

/-- A layout in which exactly the integers are found takes what is within the limits. -/
theorem readable_iff_fits {w : WideKill} {cs : List Char} {format : Format}
    (exact : ∀ s, StoredKill.ofLine cs = .ok s ↔ s.format = format ∧ s.kill.wide = w) :
    (∃ s, StoredKill.ofLine cs = .ok s) ↔ w.Fits := by
  rw [w.fits_iff]
  constructor
  · rintro ⟨s, ok⟩
    exact ⟨s.kill, ((exact s).mp ok).2⟩
  · rintro ⟨k, wide⟩
    exact ⟨⟨k, format⟩, (exact ⟨k, format⟩).mpr ⟨rfl, wide⟩⟩

/-- The integers of a line are read as they are or not at all: the line is read just when all of
them are within their limits, in the layout it is written in, and one that is not is skipped. -/
theorem integers_exact (w : WideKill) :
    (∀ s, StoredKill.ofLine w.current.compact = .ok s ↔ s.format = .current ∧ s.kill.wide = w) ∧
    (∀ s, StoredKill.ofLine w.older.compact = .ok s ↔ s.format = .older ∧ s.kill.wide = w) ∧
    ((∃ s, StoredKill.ofLine w.current.compact = .ok s) ↔ w.Fits) ∧
    ((∃ s, StoredKill.ofLine w.older.compact = .ok s) ↔ w.Fits) ∧
    ((LogLine.read (Utf8.encode w.current.compact)).isSkipped = true ↔ ¬ w.Fits) := by
  have readable := readable_iff_fits (ofLine_current w)
  refine ⟨ofLine_current w, ofLine_older w, readable, readable_iff_fits (ofLine_older w), ?_⟩
  rw [← readable]
  refine LogLine.skipped_text ?_
  rw [WideKill.current, object_trimChars, Value.compact]
  rfl

/-- One past the last id, and one that a double would carry. -/
example : StoredKill.ofLine (WideKill.current ⟨"A", 2147483648, 0, 0, []⟩).compact =
    .error .noVariant := rfl

end DropLedger
