import DropLedger.Tally
import DropLedger.Proofs.Basic

/-! What a tally holds of each item. Adding a drop changes what is held of its own item and nothing
else, so that after any drops each item has the quantities of all its drops together, as far as one
can be noted, and the name and the price that came last. -/
namespace DropLedger

/-- The exact quantity of drops together, whatever its size. -/
def quantities (ds : List Drop) : Int := (ds.map (·.quantity.val)).sum

/-- The drops of one item, in the order of the kills and of the drops of each kill. -/
def dropsOf (id : Signed32) (ks : List Kill) : List Drop :=
  (ks.flatMap (·.drops)).filter (·.id = id)

@[simp] theorem quantities_append (ds es : List Drop) :
    quantities (ds ++ es) = quantities ds + quantities es := by
  simp [quantities]

@[simp] theorem quantities_singleton (d : Drop) : quantities [d] = d.quantity.val := by
  simp [quantities]

theorem quantities_perm {ds es : List Drop} (perm : ds.Perm es) : quantities ds = quantities es :=
  (perm.map _).sum_eq

namespace Drop

@[simp] theorem followedBy_id (a b : Drop) : (a.followedBy b).id = b.id := rfl

@[simp] theorem followedBy_name (a b : Drop) : (a.followedBy b).name = b.name := rfl

@[simp] theorem followedBy_price (a b : Drop) : (a.followedBy b).price = b.price := rfl

@[simp] theorem followedBy_quantity (a b : Drop) :
    (a.followedBy b).quantity.val = min (a.quantity.val + b.quantity.val) 4294967295 := rfl

/-- The drop stands for all the given ones: it has their quantity, as far as one can be noted, and
for the rest it is as the last of them. -/
structure StandsFor (e : Drop) (ds : List Drop) : Prop where
  quantity : e.quantity.val = min (quantities ds) 4294967295
  last : ∃ d, ds.getLast? = some d ∧ e.id = d.id ∧ e.name = d.name ∧ e.price = d.price

variable {d e f : Drop} {ds : List Drop}

theorem standsFor_self (d : Drop) : d.StandsFor [d] := by
  constructor
  · have most := d.quantity.le_hi
    simp
    omega
  · exact ⟨d, rfl, rfl, rfl, rfl⟩

/-- A quantity that was cut off at the greatest one stays there. -/
theorem StandsFor.followedBy (h : e.StandsFor ds) (d : Drop) :
    (e.followedBy d).StandsFor (ds ++ [d]) := by
  constructor
  · have some := d.quantity.lo_le
    simp [h.quantity]
    omega
  · exact ⟨d, by simp⟩

theorem StandsFor.ne_nil (h : e.StandsFor ds) : ds ≠ [] := by
  rintro rfl
  obtain ⟨d, last, _⟩ := h.last
  cases last

theorem StandsFor.unique (first : e.StandsFor ds) (second : f.StandsFor ds) : e = f := by
  obtain ⟨d, last, id, name, price⟩ := first.last
  obtain ⟨d', last', id', name', price'⟩ := second.last
  obtain rfl := Option.some.inj (last.symm.trans last')
  have quantity := Bounded.ext (first.quantity.trans second.quantity.symm)
  cases e
  cases f
  simp_all

end Drop

section Insertion

variable {d : Drop} {ts : List Drop} {id : Signed32}

theorem find?_above (above : ∀ t ∈ ts, id.val < t.id.val) : ts.find? (·.id = id) = none := by
  rw [List.find?_eq_none]
  intro t member same
  have larger := above t member
  simp at same
  simp [same] at larger

/-- What is held of the item of the drop is followed by it, and nothing else changes. -/
theorem find?_insertDrop (sorted : Ascending ts) :
    (insertDrop d ts).find? (·.id = id) =
      (ts.find? (·.id = id)).merge Drop.followedBy (if d.id = id then some d else none) := by
  induction ts with
  | nil =>
    by_cases own : d.id = id
    · simp [insertDrop, own]
    · simp [insertDrop, own]
  | cons t ts ih =>
    obtain ⟨below, rest⟩ := List.pairwise_cons.mp sorted
    unfold insertDrop
    split
    · rename_i before
      by_cases own : d.id = id
      · have above : ∀ u ∈ t :: ts, id.val < u.id.val := by
          intro u member
          rcases List.mem_cons.mp member with rfl | later
          · exact own ▸ before
          · exact own ▸ Int.lt_trans before (below u later)
        rw [find?_above above]
        simp [own]
      · simp [own]
    · split
      · rename_i same
        by_cases own : d.id = id
        · simp [own, same]
        · simp [own, same]
      · rename_i other
        by_cases held : t.id = id
        · have apart : ¬ d.id = id := fun own => other (held.trans own.symm)
          simp [held, apart]
        · simp [held, ih rest]

end Insertion

namespace Tally

variable {t : Tally} {ds : List Drop} {id : Signed32} {e : Drop}

@[simp] theorem get?_empty (id : Signed32) : empty.get? id = none := rfl

theorem get?_add (t : Tally) (d : Drop) (id : Signed32) :
    (t.add d).get? id =
      (t.get? id).merge Drop.followedBy (if d.id = id then some d else none) :=
  find?_insertDrop t.ascending

theorem ids_nodup (t : Tally) : (t.items.map (·.id)).Nodup := by
  refine List.pairwise_map.mpr (t.ascending.imp ?_)
  intro a b before same
  simp [same] at before

theorem get?_eq_some : t.get? id = some e ↔ e ∈ t.items ∧ e.id = id := by
  constructor
  · intro found
    exact ⟨List.mem_of_find?_eq_some found, by simpa using List.find?_some found⟩
  · rintro ⟨member, rfl⟩
    cases found : t.get? e.id with
    | none => simpa using List.find?_eq_none.mp found e member
    | some f =>
      have inside := List.mem_of_find?_eq_some found
      have same : f.id = e.id := by simpa using List.find?_some found
      rw [List.inj_on_of_nodup_map t.ids_nodup inside member same]

/-- The tally holds each item that is among the drops by what stands for all its drops, and no
other item. -/
def Sums (t : Tally) (ds : List Drop) : Prop :=
  ∀ id, match t.get? id with
    | none => ds.filter (·.id = id) = []
    | some e => e.StandsFor (ds.filter (·.id = id))

theorem sums_empty : empty.Sums [] := fun _ => rfl

theorem Sums.add (h : t.Sums ds) (d : Drop) : (t.add d).Sums (ds ++ [d]) := by
  intro id
  have before := h id
  rw [get?_add, List.filter_append]
  by_cases own : d.id = id
  · cases held : t.get? id with
    | none =>
      rw [held] at before
      simpa [own, before] using d.standsFor_self
    | some e =>
      rw [held] at before
      simpa [own] using before.followedBy d
  · simpa [own] using before

theorem sums_foldl (ds : List Drop) : (ds.foldl add empty).Sums ds := by
  induction ds using List.reverseRecOn with
  | nil => exact sums_empty
  | append_singleton ds d ih =>
    rw [List.foldl_concat]
    exact ih.add d

theorem sums_ofKills (ks : List Kill) : (ofKills ks).Sums (ks.flatMap (·.drops)) := sums_foldl _

theorem Sums.get?_eq_some (h : t.Sums ds) :
    t.get? id = some e ↔ e.StandsFor (ds.filter (·.id = id)) := by
  have found := h id
  cases held : t.get? id with
  | none =>
    rw [held] at found
    exact iff_of_false nofun fun stands => stands.ne_nil found
  | some f =>
    rw [held] at found
    rw [Option.some.injEq]
    exact ⟨fun same => same ▸ found, found.unique⟩

theorem Sums.quantity (h : t.Sums ds) (id : Signed32) :
    (t.get? id).map (·.quantity.val) =
      if ds.filter (·.id = id) = [] then none
      else some (min (quantities (ds.filter (·.id = id))) 4294967295) := by
  have found := h id
  cases held : t.get? id with
  | none =>
    rw [held] at found
    simp [found]
  | some e =>
    rw [held] at found
    rw [if_neg found.ne_nil, Option.map_some, found.quantity]

theorem mem_ids_iff : id ∈ t.items.map (·.id) ↔ ∃ e, t.get? id = some e := by
  simp only [List.mem_map, Tally.get?_eq_some]

theorem Sums.mem_ids_iff (h : t.Sums ds) :
    id ∈ t.items.map (·.id) ↔ ∃ d ∈ ds, d.id = id := by
  have found := h id
  rw [Tally.mem_ids_iff]
  cases held : t.get? id with
  | none =>
    rw [held] at found
    simpa using found
  | some e =>
    rw [held] at found
    simpa using found.ne_nil

/-- The items of a tally of kills are those that some kill dropped, each of them once, and each has
the quantities of all its drops together or the greatest quantity there is, with the name and the
price of its last drop. -/
theorem ofKills_totals (ks : List Kill) :
    ((ofKills ks).items.map (·.id)).Nodup ∧
      (∀ id, id ∈ (ofKills ks).items.map (·.id) ↔ ∃ k ∈ ks, ∃ d ∈ k.drops, d.id = id) ∧
      ∀ id e, (ofKills ks).get? id = some e ↔
        e.id = id ∧ e.quantity.val = min (quantities (dropsOf id ks)) 4294967295 ∧
          ∃ last, (dropsOf id ks).getLast? = some last ∧
            e.name = last.name ∧ e.price = last.price := by
  have sums := sums_ofKills ks
  refine ⟨ids_nodup _, ?_, ?_⟩
  · intro id
    rw [sums.mem_ids_iff]
    simp only [List.mem_flatMap]
    constructor
    · rintro ⟨d, ⟨k, kill, drop⟩, same⟩
      exact ⟨k, kill, d, drop, same⟩
    · rintro ⟨k, kill, d, drop, same⟩
      exact ⟨d, ⟨k, kill, drop⟩, same⟩
  · intro id e
    rw [sums.get?_eq_some]
    constructor
    · rintro ⟨quantity, last, ends, same, name, price⟩
      have own : last.id = id := by simpa using (List.mem_filter.mp (List.mem_of_getLast? ends)).2
      exact ⟨same.trans own, quantity, last, ends, name, price⟩
    · rintro ⟨same, quantity, last, ends, name, price⟩
      have own : last.id = id := by simpa using (List.mem_filter.mp (List.mem_of_getLast? ends)).2
      exact ⟨quantity, last, ends, same.trans own.symm, name, price⟩

/-- The quantity stays at the greatest one, and what came last names and prices it. -/
example :
    (ofKills [Kill.ofEvent "AB" unknown
      [⟨"Rune", unknown, ⟨4294967295, by decide, by decide⟩, Signed64.zero⟩,
        ⟨"Coins", ⟨7, by decide, by decide⟩, ⟨2, by decide, by decide⟩, Signed64.zero⟩,
        ⟨"Runes", unknown, ⟨6, by decide, by decide⟩, ⟨4, by decide, by decide⟩⟩]]).items =
      [⟨"Runes", unknown, ⟨4294967295, by decide, by decide⟩, ⟨4, by decide, by decide⟩⟩,
        ⟨"Coins", ⟨7, by decide, by decide⟩, ⟨2, by decide, by decide⟩, Signed64.zero⟩] := by
  decide

end Tally

end DropLedger
