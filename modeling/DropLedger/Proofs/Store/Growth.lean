import DropLedger.Proofs.Store.Footprint

/-! How logs grow. A kill that was taken is loaded after those that were there, by its entity and by
no other; one that was not taken changes nothing that is loaded. -/
namespace DropLedger.Store

variable {s t : Store} {entity key : String} {k : Kill} {ds : List Drop}

theorem load_key (keyed : keyOf? entity = some key) :
    (s.load entity).1 = s.view s.selection key :=
  view_entity keyed

/-- A failed request for an entity changes nothing that is loaded. -/
theorem failed_loads (sound : s.Sound) {r : Request} (about : r.entity? = some entity)
    (done : s.perform r = (false, t)) (other : String) : (t.load other).1 = (s.load other).1 := by
  have calm : ¬r.Switches s.selection := by
    rintro ⟨_, _, rfl, _⟩
    cases about
  have left := ((perform_leftBy done).views sound.proper sound.settled).1 other
  calc
    (t.load other).1 = t.view s.selection other := by rw [← perform_stays calm done]; rfl
    _ = (s.load other).1 := left

theorem append_taken (keyed : keyOf? k.name = some key) (done : s.append k = (true, t)) :
    s.Fits key ∧ s.Edited t [(s.logAt key, some (s.bytesOf key ++
      freshLine (s.bytesOf key) (Log.write [k])))] := by
  rcases append_cases done with ⟨failed, _⟩ | ⟨_, other, keyed', taken⟩
  · cases failed
  · obtain rfl := Option.some.inj (keyed.symm.trans keyed')
    exact taken

theorem append_loads (sound : s.Sound) (done : s.append k = (true, t)) (entity : String) :
    (t.load entity).1 =
      (s.load entity).1 ++ if keyOf? k.name = keyOf? entity then [k] else [] := by
  have performed : s.perform (.append k) = (true, t) := done
  have selection : t.selection = s.selection := perform_selects performed
  cases keyed : keyOf? entity with
  | none =>
    -- A kill that was taken has a key, so it is none of this entity.
    rcases append_cases done with ⟨failed, _⟩ | ⟨_, key, keyed', _⟩
    · cases failed
    · have none_before : (s.load entity).1 = [] := view_unkeyed (s := s) keyed
      have none_after : (t.load entity).1 = [] := view_unkeyed (s := t) keyed
      rw [none_before, none_after, keyed', if_neg nofun]
      rfl
  | some key =>
    have acts := perform_acts sound performed sound.proper rfl (keyOf?_key keyed)
    rw [load_key keyed, load_key keyed, selection, acts, Request.act, Ledger.change]
    by_cases hit : keyOf? k.name = some key
    · rw [if_pos ⟨rfl, hit⟩, if_pos hit]
    · rw [if_neg fun both => hit both.2, if_neg hit, List.append_nil]

theorem amendLast_loads (sound : s.Sound) (keyed : keyOf? entity = some key) (given : ds ≠ [])
    (done : s.amendLast entity ds = (true, t)) :
    (t.load entity).1 = withDrops entity ds (s.load entity).1 := by
  have performed : s.perform (.amendLast entity ds) = (true, t) := done
  have selection : t.selection = s.selection := perform_selects performed
  have acts := perform_acts sound performed sound.proper rfl (keyOf?_key keyed)
  rw [load_key keyed, load_key keyed, selection, acts, Request.act, if_neg (by simpa using given),
    Ledger.change, if_pos ⟨rfl, keyed⟩]

/-- The kills that are taken when all of them are appended in turn. -/
def accepted (s : Store) : List Kill → List Kill
  | [] => []
  | k :: ks =>
    match s.append k with
    | (true, t) => k :: t.accepted ks
    | (false, t) => t.accepted ks

/-- What an entity had, and those of its kills that are taken. -/
def grown (s : Store) (ks : List Kill) (entity : String) : List Kill :=
  (s.load entity).1 ++ (s.accepted ks).filter fun k => keyOf? k.name = keyOf? entity

theorem appends_load (sound : s.Sound) (ks : List Kill) (entity : String) :
    ((s.run (ks.map .append)).load entity).1 = s.grown ks entity := by
  unfold grown
  induction ks generalizing s with
  | nil => exact (List.append_nil _).symm
  | cons k ks ih =>
    cases done : s.append k with
    | mk b t =>
      have performed : s.perform (.append k) = (b, t) := done
      have run : s.run ((k :: ks).map .append) = t.run (ks.map .append) := by
        rw [List.map_cons, Store.run, List.foldl_cons, performed]
        rfl
      rw [run, ih (perform_sound sound performed).1, accepted, done]
      cases b with
      | true =>
        rw [append_loads sound done, List.filter_cons, List.append_assoc]
        by_cases own : keyOf? k.name = keyOf? entity <;> simp [own]
      | false => rw [failed_loads sound rfl performed]

end DropLedger.Store
