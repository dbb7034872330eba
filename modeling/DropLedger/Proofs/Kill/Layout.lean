import DropLedger.Kill.Line
import DropLedger.Proofs.Json.Spelling

/-! The current layout holds a kill completely: its value can be written, and decoding that value
gives the kill. -/
namespace DropLedger
open Json

theorem ofValue_object {σ α : Type} (l : Layout σ α) (es : List (String × Value)) :
    l.decoder.ofValue (.object es) = (do
      let s ← es.foldlM (Layout.entryOfValue l.fields) l.start
      (l.finish s).toOption) := rfl

theorem ofValue_integer {lo hi : Int} (expected : String) (a : Bounded lo hi) :
    (Decoder.integer lo hi expected).ofValue (.number (.whole a.val)) = some a :=
  Bounded.ofInt?_val a

theorem ofValue_list {α : Type} {d : Decoder α} {write : α → Value}
    (back : ∀ a, d.ofValue (write a) = some a) (as : List α) :
    d.list.ofValue (.list (as.map write)) = some as := by
  change (as.map write).mapM d.ofValue = some as
  induction as with
  | nil => rfl
  | cons a as ih => simp [back, ih]

theorem drop_ofValue (d : Drop) : Current.dropLayout.decoder.ofValue d.toValue = some d := by
  rw [Drop.toValue, ofValue_object]
  simp [Current.dropLayout, Layout.entryOfValue, Field.of, Decoder.map, decodeName,
    decodeSigned32, decodeUnsigned32, decodeSigned64, ofValue_integer, Decoder.text, need,
    Except.toOption]
  rfl

theorem kill_ofValue (k : Kill) : Current.killLayout.decoder.ofValue k.toValue = some k := by
  have drops := ofValue_list drop_ofValue k.drops
  rw [Kill.toValue, ofValue_object]
  simp [Current.killLayout, Layout.entryOfValue, Field.of, Decoder.map, decodeName,
    decodeSigned32, ofValue_integer, Decoder.text, need, Except.toOption, drops]
  rfl

theorem bounded_reread {lo hi : Int} (low : -2 ^ 63 ≤ lo) (high : hi < 2 ^ 64) (n : Bounded lo hi) :
    (Numeral.ofInt n.val).value = .ok (.whole n.val) :=
  Numeral.ofInt_value (low.trans n.lo_le) (n.le_hi.trans_lt high)

theorem drop_writable (d : Drop) (depth : Nat) : Writable (depth + 1) d.toValue := by
  refine .object fun e he => ?_
  simp only [List.mem_cons, List.not_mem_nil, or_false] at he
  rcases he with rfl | rfl | rfl | rfl
  · exact .text d.name
  · exact .whole d.id.val
  · exact .whole d.quantity.val
  · exact .whole d.price.val

theorem kill_writable (k : Kill) (depth : Nat) : Writable (depth + 3) k.toValue := by
  refine .object fun e he => ?_
  simp only [List.mem_cons, List.not_mem_nil, or_false] at he
  rcases he with rfl | rfl | rfl | rfl | rfl
  · exact .whole k.id.val
  · exact .text k.name
  · exact .whole k.level.val
  · exact .whole k.killCount.val
  · refine .list fun v hv => ?_
    obtain ⟨d, _, rfl⟩ := List.mem_map.mp hv
    exact drop_writable d depth

theorem drop_reread (d : Drop) : d.toValue.reread = .ok d.toValue := by
  have id := bounded_reread (by decide) (by decide) d.id
  have quantity := bounded_reread (by decide) (by decide) d.quantity
  have price := bounded_reread (by decide) (by decide) d.price
  simp only [Drop.toValue, Value.reread, rereadEntries, id, quantity, price]
  rfl

theorem drops_reread (ds : List Drop) :
    rereadItems (ds.map Drop.toValue) = .ok (ds.map Drop.toValue) := by
  induction ds with
  | nil => rfl
  | cons d ds ih =>
    simp only [List.map_cons, rereadItems, drop_reread, ih]
    rfl

theorem kill_reread (k : Kill) : k.toValue.reread = .ok k.toValue := by
  have id := bounded_reread (by decide) (by decide) k.id
  have level := bounded_reread (by decide) (by decide) k.level
  have killCount := bounded_reread (by decide) (by decide) k.killCount
  simp only [Kill.toValue, Value.reread, rereadEntries, id, level, killCount, drops_reread]
  rfl

end DropLedger
