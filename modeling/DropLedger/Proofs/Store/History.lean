import DropLedger.Proofs.Store.Run

/-! What the past of a store says of its keys: which requests write the log of a key, and whether
one of them succeeded since the log was last deleted. -/
namespace DropLedger

namespace Request

/-- The request leaves a log for the key if it succeeds. -/
def Writes (key : String) : Request → Prop
  | .append kill => keyOf? kill.name = some key
  | .replace entity _ => keyOf? entity = some key
  | .amendLast entity drops => keyOf? entity = some key ∧ drops.isEmpty = false
  | _ => False

def Deletes (key : String) : Request → Prop
  | .delete entity => keyOf? entity = some key
  | _ => False

variable {r : Request} {j k : String}

theorem writes_unique (h : r.Writes j) (h' : r.Writes k) : j = k := by
  cases r with
  | append kill => exact Option.some.inj (h.symm.trans h')
  | replace entity kills => exact Option.some.inj (h.symm.trans h')
  | amendLast entity drops => exact Option.some.inj (h.1.symm.trans h'.1)
  | _ => exact h.elim

theorem writes_keyed (h : r.Writes k) : keyOf? k = some k := by
  cases r with
  | append kill => exact keyOf?_key h
  | replace entity kills => exact keyOf?_key h
  | amendLast entity drops => exact keyOf?_key h.1
  | _ => exact h.elim

theorem writes_not_deletes (h : r.Writes j) : ¬r.Deletes k := by
  cases r with
  | delete entity => exact h.elim
  | _ => exact fun deletes => deletes

end Request

namespace Store

/-- A request succeeds while a directory is selected. -/
def Succeeds (s : Store) (directory : Path) (r : Request) : Prop :=
  s.selection.directory = directory ∧ (s.perform r).1 = true

/-- In a directory, a request that writes the log of a key succeeded, and since then none that
deletes it. -/
def WrittenSince (s : Store) (rs : List Request) (directory : Path) (key : String) : Prop :=
  ∃ before r after, rs = before ++ r :: after ∧ r.Writes key ∧
    (s.run before).Succeeds directory r ∧
      ∀ between q rest, after = between ++ q :: rest → q.Deletes key →
        ¬(s.run (before ++ r :: between)).Succeeds directory q

variable {s : Store} {rs : List Request} {r : Request} {directory : Path} {key : String}

theorem writtenSince_nil : ¬s.WrittenSince [] directory key := by
  rintro ⟨before, r, after, whole, _⟩
  cases before <;> cases whole

theorem writtenSince_snoc :
    s.WrittenSince (rs ++ [r]) directory key ↔
      (r.Writes key ∧ (s.run rs).Succeeds directory r) ∨
        (s.WrittenSince rs directory key ∧
          ¬(r.Deletes key ∧ (s.run rs).Succeeds directory r)) := by
  constructor
  · rintro ⟨before, w, after, whole, writes, done, since⟩
    rcases List.eq_nil_or_concat after with rfl | ⟨earlier, last, rfl⟩
    · obtain ⟨rfl, rfl⟩ := List.append_singleton_inj.mp whole
      exact .inl ⟨writes, done⟩
    · rw [List.concat_eq_append, ← List.cons_append, ← List.append_assoc] at whole
      obtain ⟨rfl, rfl⟩ := List.append_singleton_inj.mp whole
      refine .inr ⟨⟨before, w, earlier, rfl, writes, done, fun between q rest split deletes => ?_⟩,
        fun deleted => ?_⟩
      · exact since between q (rest ++ [r]) (by simp [split]) deletes
      · exact since earlier r [] (by simp) deleted.1 deleted.2
  · rintro (⟨writes, done⟩ | ⟨⟨before, w, after, rfl, writes, done, since⟩, kept⟩)
    · refine ⟨rs, r, [], rfl, writes, done, ?_⟩
      intro between q rest split
      cases between <;> cases split
    · refine ⟨before, w, after ++ [r], by simp, writes, done, ?_⟩
      intro between q rest split deletes
      rcases List.eq_nil_or_concat rest with rfl | ⟨earlier, last, rfl⟩
      · obtain ⟨rfl, rfl⟩ := List.append_singleton_inj.mp split
        exact fun done => kept ⟨deletes, done⟩
      · rw [List.concat_eq_append, ← List.cons_append, ← List.append_assoc] at split
        exact since between q earlier (List.append_singleton_inj.mp split).1 deletes

end Store

end DropLedger
