import DropLedger.Proofs.Json.Fields
import DropLedger.Proofs.Json.Spelling

/-! What decoders find in a value that was written and read again. An integer is found as it was or
not at all. -/
namespace DropLedger.Json

variable {α β σ : Type}

def Finds (d : Decoder α) (v : Value) (a : α) : Prop :=
  ∃ w, v.reread = .ok w ∧ d.ofValue w = some a

theorem finds_text {expected s t : String} : Finds (.text expected) (.text s) t ↔ t = s := by
  constructor
  · rintro ⟨w, read, found⟩
    cases read
    exact (Option.some.inj found).symm
  · rintro rfl
    exact ⟨_, rfl, rfl⟩

theorem finds_integer {lo hi n : Int} {expected : String} {a : Bounded lo hi} (low : -2 ^ 63 ≤ lo)
    (high : hi < 2 ^ 64) :
    Finds (.integer lo hi expected) (.number (.whole n)) a ↔ a.val = n := by
  constructor
  · rintro ⟨w, read, found⟩
    obtain ⟨x, value, rfl⟩ := map_eq_ok.mp read
    cases x with
    | whole m =>
      rw [← Numeral.eq_of_ofInt_value value]
      exact Bounded.ofInt?_eq_some.mp found
    | real x => cases found
  · rintro rfl
    have value := Numeral.ofInt_value (low.trans a.lo_le) (a.le_hi.trans_lt high)
    exact ⟨.number (.whole a.val), map_eq_ok.mpr ⟨_, value, rfl⟩, Bounded.ofInt?_val a⟩

section Items

variable {d : Decoder α} {write : β → Value} {wide : α → β}

theorem finds_items (each : ∀ a b, Finds d (write b) a ↔ wide a = b) (as : List α) (bs : List β) :
    (∃ ws, rereadItems (bs.map write) = .ok ws ∧ ws.mapM d.ofValue = some as) ↔
      as.map wide = bs := by
  induction bs generalizing as with
  | nil =>
    rw [List.map_eq_nil_iff]
    constructor
    · rintro ⟨ws, read, found⟩
      cases read
      exact (Option.some.inj found).symm
    · rintro rfl
      exact ⟨[], rfl, rfl⟩
  | cons b bs ih =>
    constructor
    · rintro ⟨ws, read, found⟩
      obtain ⟨w, first, read⟩ := bind_eq_ok.mp read
      obtain ⟨others, rest, same⟩ := bind_eq_ok.mp read
      cases same
      rw [List.mapM_cons] at found
      obtain ⟨a, here, found⟩ := Option.bind_eq_some_iff.mp found
      obtain ⟨as, later, same⟩ := Option.bind_eq_some_iff.mp found
      cases same
      rw [List.map_cons, (each a b).mp ⟨w, first, here⟩, (ih as).mp ⟨others, rest, later⟩]
    · intro same
      cases as with
      | nil => cases same
      | cons a as =>
        obtain ⟨here, later⟩ := List.cons.inj same
        obtain ⟨w, first, found⟩ := (each a b).mpr here
        obtain ⟨ws, rest, others⟩ := (ih as).mpr later
        exact ⟨w :: ws, bind_eq_ok.mpr ⟨w, first, bind_eq_ok.mpr ⟨ws, rest, rfl⟩⟩,
          by simp [found, others]⟩

/-- The items of a list are found one by one. -/
theorem finds_list (each : ∀ a b, Finds d (write b) a ↔ wide a = b) (as : List α) (bs : List β) :
    Finds d.list (.list (bs.map write)) as ↔ as.map wide = bs := by
  rw [← finds_items each]
  constructor
  · rintro ⟨w, read, found⟩
    obtain ⟨ws, items, rfl⟩ := map_eq_ok.mp read
    exact ⟨ws, items, found⟩
  · rintro ⟨ws, items, found⟩
    exact ⟨.list ws, map_eq_ok.mpr ⟨ws, items, rfl⟩, found⟩

end Items

section Entries

variable {fields : List (Field σ)} {es : List (String × Value)} {s t : σ}

/-- What the entries of an object do to the fields read so far. -/
def Runs (fields : List (Field σ)) (es : List (String × Value)) (s t : σ) : Prop :=
  ∃ fs, rereadEntries es = .ok fs ∧ fs.foldlM (Layout.entryOfValue fields) s = some t

theorem finds_object {l : Layout σ α} {a : α} :
    Finds l.decoder (.object es) a ↔
      ∃ t, Runs l.fields es l.start t ∧ (l.finish t).toOption = some a := by
  constructor
  · rintro ⟨w, read, found⟩
    obtain ⟨fs, entries, rfl⟩ := map_eq_ok.mp read
    obtain ⟨t, run, done⟩ := Option.bind_eq_some_iff.mp found
    exact ⟨t, ⟨fs, entries, run⟩, done⟩
  · rintro ⟨t, ⟨fs, entries, run⟩, done⟩
    exact ⟨.object fs, map_eq_ok.mpr ⟨fs, entries, rfl⟩, Option.bind_eq_some_iff.mpr ⟨t, run, done⟩⟩

theorem runs_nil : Runs fields [] s t ↔ s = t := by
  constructor
  · rintro ⟨fs, read, run⟩
    cases read
    exact Option.some.inj run
  · rintro rfl
    exact ⟨[], rfl, rfl⟩

/-- The entry of a field that was not given yet. -/
theorem runs_field {name : String} {required : Bool} {d : Decoder α} {get : σ → Option α}
    {set : σ → α → σ} (found : fields.find? (·.name == name) = some (.of name required d get set))
    (fresh : get s = none) {v : Value} :
    Runs fields ((name, v) :: es) s t ↔ ∃ a, Finds d v a ∧ Runs fields es (set s a) t := by
  have free : ¬ (Field.of name required d get set).given s = true := by simp [Field.of, fresh]
  have step : ∀ w, Layout.entryOfValue fields s (name, w) = (d.ofValue w).map (set s) := by
    intro w
    rw [Layout.entry_field (e := (name, w)) found, if_neg free]
    simp [Field.of, Decoder.map, Function.comp_def]
  constructor
  · rintro ⟨fs, read, run⟩
    obtain ⟨w, first, read⟩ := bind_eq_ok.mp read
    obtain ⟨others, rest, same⟩ := bind_eq_ok.mp read
    cases same
    rw [List.foldlM_cons, step] at run
    obtain ⟨u, here, run⟩ := Option.bind_eq_some_iff.mp run
    obtain ⟨a, decoded, rfl⟩ := Option.map_eq_some_iff.mp here
    exact ⟨a, ⟨w, first, decoded⟩, others, rest, run⟩
  · rintro ⟨a, ⟨w, first, decoded⟩, others, rest, run⟩
    refine ⟨(name, w) :: others,
      bind_eq_ok.mpr ⟨w, first, bind_eq_ok.mpr ⟨others, rest, rfl⟩⟩, ?_⟩
    rw [List.foldlM_cons, step, decoded]
    exact run

end Entries

end DropLedger.Json
