import DropLedger.Json.Decoder
import DropLedger.Proofs.Basic

/-! The fields of an object. Where no field touches the place of another, the order of the entries
does not count, and an entry that is no field changes nothing. -/
namespace DropLedger.Json

variable {σ α : Type}

/-- Neither of two fields touches the place of the other. -/
structure Field.Apart (f g : Field σ) : Prop where
  commute : ∀ {v w a b}, f.decoder.ofValue v = some a → g.decoder.ofValue w = some b →
    ∀ s, a (b s) = b (a s)
  left : ∀ {v a}, f.decoder.ofValue v = some a → ∀ s, g.given (a s) = g.given s
  right : ∀ {w b}, g.decoder.ofValue w = some b → ∀ s, f.given (b s) = f.given s

theorem Field.Apart.symm {f g : Field σ} (h : f.Apart g) : g.Apart f where
  commute hv hw s := (h.commute hw hv s).symm
  left := h.right
  right := h.left

instance : Std.Symm (@Field.Apart σ) := ⟨fun _ _ => Field.Apart.symm⟩

theorem Field.ofValue_of {name : String} {required : Bool} {d : Decoder α} {get : σ → Option α}
    {set : σ → α → σ} {v : Value} {update : σ → σ}
    (h : (Field.of name required d get set).decoder.ofValue v = some update) :
    ∃ a, d.ofValue v = some a ∧ update = fun s => set s a := by
  obtain ⟨a, value, same⟩ := Option.map_eq_some_iff.mp h
  exact ⟨a, value, same.symm⟩

theorem Field.apart_of {β : Type} {m n : String} {p q : Bool} {d : Decoder α} {e : Decoder β}
    {get : σ → Option α} {get' : σ → Option β} {set : σ → α → σ} {set' : σ → β → σ}
    (commute : ∀ s a b, set (set' s b) a = set' (set s a) b)
    (left : ∀ s a, get' (set s a) = get' s) (right : ∀ s b, get (set' s b) = get s) :
    (Field.of m p d get set).Apart (Field.of n q e get' set') := by
  constructor
  · intro v w a b hv hw s
    obtain ⟨x, _, rfl⟩ := ofValue_of hv
    obtain ⟨y, _, rfl⟩ := ofValue_of hw
    exact commute s x y
  · intro v a hv s
    obtain ⟨x, _, rfl⟩ := ofValue_of hv
    exact congrArg Option.isSome (left s x)
  · intro w b hw s
    obtain ⟨y, _, rfl⟩ := ofValue_of hw
    exact congrArg Option.isSome (right s y)

/-- A field that was read shows that it was given. -/
def Field.Shown (f : Field σ) : Prop :=
  ∀ v update, f.decoder.ofValue v = some update → ∀ s, f.given (update s) = true

theorem Field.shown_of {name : String} {required : Bool} {d : Decoder α} {get : σ → Option α}
    {set : σ → α → σ} (shows : ∀ s a, get (set s a) = some a) :
    (Field.of name required d get set).Shown := by
  intro v update decoded s
  obtain ⟨a, _, rfl⟩ := ofValue_of decoded
  exact (congrArg Option.isSome (shows s a)).trans rfl

/-- Each field has a place of its own. -/
structure Independent (fields : List (Field σ)) : Prop where
  apart : fields.Pairwise Field.Apart
  shown : ∀ f ∈ fields, f.Shown

/-- An object with these entries in any order, and with other entries whose keys are not reserved.
-/
def Arranged (reserved : List String) (entries : List (String × Value)) (v : Value) : Prop :=
  ∃ es extra, v = .object es ∧ es.Perm (entries ++ extra) ∧ ∀ e ∈ extra, e.1 ∉ reserved

theorem Arranged.backwards {reserved : List String} (entries extra : List (String × Value))
    (other : ∀ e ∈ extra, e.1 ∉ reserved) :
    Arranged reserved entries (.object (entries ++ extra).reverse) :=
  ⟨_, extra, rfl, (entries ++ extra).reverse_perm, other⟩

namespace Layout

variable {fields : List (Field σ)} {f g : Field σ} {e : String × Value}

theorem entry_field (found : fields.find? (·.name == e.1) = some f) (s : σ) :
    entryOfValue fields s e =
      if f.given s then none else (f.decoder.ofValue e.2).map fun update => update s := by
  simp only [entryOfValue, found]

theorem entry_unknown (unknown : fields.find? (·.name == e.1) = none) (s : σ) :
    entryOfValue fields s e = some s := by
  simp only [entryOfValue, unknown]

theorem found_name (found : fields.find? (·.name == e.1) = some f) : f ∈ fields ∧ f.name = e.1 := by
  have named := List.find?_some found
  exact ⟨List.mem_of_find?_eq_some found, eq_of_beq named⟩

/-- No field is given twice. -/
theorem entry_twice (h : Independent fields) (s : σ) {e₁ e₂ : String × Value}
    (found₁ : fields.find? (·.name == e₁.1) = some f)
    (found₂ : fields.find? (·.name == e₂.1) = some f) :
    (entryOfValue fields s e₁ >>= (entryOfValue fields · e₂)) = none := by
  rw [entry_field found₁]
  split
  · rfl
  · cases decoded : f.decoder.ofValue e₁.2 with
    | none => rfl
    | some update =>
      change entryOfValue fields (update s) e₂ = none
      rw [entry_field found₂, if_pos (h.shown f (found_name found₁).1 _ _ decoded s)]

theorem entry_apart (apart : f.Apart g) (s : σ) {e₁ e₂ : String × Value}
    (found₁ : fields.find? (·.name == e₁.1) = some f)
    (found₂ : fields.find? (·.name == e₂.1) = some g) :
    (entryOfValue fields s e₁ >>= (entryOfValue fields · e₂)) =
      if f.given s || g.given s then none
      else (f.decoder.ofValue e₁.2).bind fun a => (g.decoder.ofValue e₂.2).map fun b => b (a s) := by
  rw [entry_field found₁]
  by_cases given : f.given s = true
  · simp [given]
  · rw [if_neg given]
    cases decoded : f.decoder.ofValue e₁.2 with
    | none => simp
    | some a =>
      change entryOfValue fields (a s) e₂ = _
      rw [entry_field found₂, apart.left decoded]
      simp [given]

/-- Two entries may change places. -/
theorem entry_commute (h : Independent fields) (s : σ) (e₁ e₂ : String × Value) :
    (entryOfValue fields s e₁ >>= (entryOfValue fields · e₂)) =
      (entryOfValue fields s e₂ >>= (entryOfValue fields · e₁)) := by
  cases found₁ : fields.find? (·.name == e₁.1) with
  | none => simp [entry_unknown found₁]
  | some f =>
    cases found₂ : fields.find? (·.name == e₂.1) with
    | none => simp [entry_unknown found₂]
    | some g =>
      obtain ⟨inside₁, name₁⟩ := found_name found₁
      obtain ⟨inside₂, name₂⟩ := found_name found₂
      by_cases same : f = g
      · subst same
        rw [entry_twice h s found₁ found₂, entry_twice h s found₂ found₁]
      · have apart := h.apart.forall inside₁ inside₂ same
        rw [entry_apart apart s found₁ found₂, entry_apart apart.symm s found₂ found₁, Bool.or_comm]
        split
        · rfl
        · cases first : f.decoder.ofValue e₁.2 with
          | none => cases g.decoder.ofValue e₂.2 <;> rfl
          | some a =>
            cases second : g.decoder.ofValue e₂.2 with
            | none => rfl
            | some b => exact congrArg some (apart.commute first second s).symm

/-- The order of the entries does not count. -/
theorem foldlM_perm (h : Independent fields) {es fs : List (String × Value)} (perm : es.Perm fs)
    (s : σ) : es.foldlM (entryOfValue fields) s = fs.foldlM (entryOfValue fields) s := by
  induction perm generalizing s with
  | nil => rfl
  | cons e _ ih =>
    rw [List.foldlM_cons, List.foldlM_cons]
    exact congrArg _ (funext ih)
  | swap e₁ e₂ es =>
    simp only [List.foldlM_cons, ← bind_assoc, entry_commute h s e₂ e₁]
  | trans _ _ ih₁ ih₂ => exact (ih₁ s).trans (ih₂ s)

/-- Entries that are no fields change nothing. -/
theorem foldlM_unknown {es : List (String × Value)} (unknown : ∀ e ∈ es, ∀ f ∈ fields, f.name ≠ e.1)
    (s : σ) : es.foldlM (entryOfValue fields) s = some s := by
  induction es with
  | nil => rfl
  | cons e es ih =>
    obtain ⟨first, others⟩ := List.forall_mem_cons.mp unknown
    have none : fields.find? (·.name == e.1) = none := by
      refine List.find?_eq_none.mpr fun f inside => ?_
      simp [first f inside]
    rw [List.foldlM_cons, entry_unknown none]
    exact ih others

/-- A field that no entry names is not given. -/
theorem given_foldlM (h : Independent fields) (inside : f ∈ fields) {es : List (String × Value)}
    (absent : ∀ e ∈ es, e.1 ≠ f.name) {s t : σ}
    (run : es.foldlM (entryOfValue fields) s = some t) : f.given t = f.given s := by
  induction es generalizing s with
  | nil =>
    cases run
    rfl
  | cons e es ih =>
    obtain ⟨other, others⟩ := List.forall_mem_cons.mp absent
    rw [List.foldlM_cons] at run
    obtain ⟨u, step, run⟩ := Option.bind_eq_some_iff.mp run
    refine (ih others run).trans ?_
    cases found : fields.find? (·.name == e.1) with
    | none =>
      rw [entry_unknown found] at step
      cases step
      rfl
    | some g =>
      obtain ⟨member, name⟩ := found_name found
      have different : g ≠ f := by
        rintro rfl
        exact other name.symm
      have apart := h.apart.forall member inside different
      rw [entry_field found] at step
      split at step
      · cases step
      · obtain ⟨update, decoded, same⟩ := Option.map_eq_some_iff.mp step
        rw [← same]
        exact apart.left decoded s

/-- An object in which no entry names a field that may not be missing. -/
theorem refused_unnamed {l : Layout σ α} (h : Independent l.fields) (inside : f ∈ l.fields)
    (fresh : f.given l.start = false)
    (missing : ∀ s, f.given s = false → (l.finish s).toOption = none)
    {es : List (String × Value)} (absent : ∀ e ∈ es, e.1 ≠ f.name) :
    l.decoder.ofValue (.object es) = none := by
  change (es.foldlM (entryOfValue l.fields) l.start >>= fun s => (l.finish s).toOption) = none
  cases run : es.foldlM (entryOfValue l.fields) l.start with
  | none => rfl
  | some t => exact missing t ((given_foldlM h inside absent run).trans fresh)

/-- The entry of a field, if there is one. -/
def given (name : String) (v : Option Value) : List (String × Value) := v.toList.map (name, ·)

theorem name_of_given {name : String} {v : Option Value} {e : String × Value}
    (member : e ∈ given name v) : e.1 = name := by
  obtain ⟨_, _, rfl⟩ := List.mem_map.mp member
  rfl

/-- A field in its place: `place` is the state with and without it. -/
theorem foldlM_given (fields : List (Field σ)) (name : String) (place : Option α → σ)
    {required : Bool} {d : Decoder α} {get : σ → Option α} {set : σ → α → σ}
    (found : fields.find? (·.name == name) = some (.of name required d get set))
    (fresh : get (place none) = none) (sets : ∀ a, set (place none) a = place (some a))
    {v : Option Value} {o : Option α} (decoded : v.map d.ofValue = o.map some) :
    (given name v).foldlM (entryOfValue fields) (place none) = some (place o) := by
  cases v with
  | none =>
    cases o with
    | none => rfl
    | some a => cases decoded
  | some v =>
    cases o with
    | none => cases decoded
    | some a =>
      have value : d.ofValue v = some a := Option.some.inj decoded
      change (entryOfValue fields (place none) (name, v) >>= some) = _
      have free : ¬ (Field.of name required d get set).given (place none) = true := by
        simp [Field.of, fresh]
      rw [entry_field (e := (name, v)) found, if_neg free]
      simp [Field.of, Decoder.map, value, sets]

theorem foldlM_then {es fs : List (String × Value)} {s t : σ}
    (h : es.foldlM (entryOfValue fields) s = some t) :
    (es ++ fs).foldlM (entryOfValue fields) s = fs.foldlM (entryOfValue fields) t := by
  rw [List.foldlM_append, h]
  rfl

/-- Order and other keys do not count. -/
theorem arranged_foldlM (independent : Independent fields)
    {reserved : List String} (names : ∀ f ∈ fields, f.name ∈ reserved)
    {entries : List (String × Value)} {v : Value} (written : Arranged reserved entries v) {s t : σ}
    (run : entries.foldlM (entryOfValue fields) s = some t) :
    ∃ es, v = .object es ∧ es.foldlM (entryOfValue fields) s = some t := by
  obtain ⟨es, extra, object, perm, other⟩ := written
  have unknown : ∀ e ∈ extra, ∀ f ∈ fields, f.name ≠ e.1 := by
    intro e member f inside same
    exact other e member (same ▸ names f inside)
  refine ⟨es, object, ?_⟩
  rw [foldlM_perm independent perm, foldlM_then run, foldlM_unknown unknown]

theorem map_ofValue {d : Decoder α} {write : α → Value} (back : ∀ a, d.ofValue (write a) = some a)
    (o : Option α) : (o.map write).map d.ofValue = o.map some := by
  cases o with
  | none => rfl
  | some a => exact congrArg some (back a)

end Layout

end DropLedger.Json
