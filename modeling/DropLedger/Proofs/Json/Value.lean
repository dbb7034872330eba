import DropLedger.Proofs.Json.Literal
import DropLedger.Proofs.Json.Number
import DropLedger.Proofs.Json.Sequence

/-! Reading a JSON value, by the sign that it begins with. -/
namespace DropLedger.Json

/-- The entry of an object that is read after its key, before those read so far. -/
def readEntryValue (read : Reader Value) (es : List (String × Value)) (k : String) :
    Reader (List (String × Value)) := fun cs => do
  let (v, rest) ← read (← readColon cs)
  return ((k, v) :: es, rest)

theorem readValue_list (depth : Nat) {cs rest : List Char} (start : skipSpace cs = '[' :: rest) :
    readValue (depth + 1) cs = (do
      let (items, rest) ← readItems readFaults (readValue depth) rest
      return (.list items, rest)) := by
  rw [readValue.eq_def, start]
  rfl

theorem readValue_object (depth : Nat) {cs rest : List Char} (start : skipSpace cs = '{' :: rest) :
    readValue (depth + 1) cs = (do
      let (es, rest) ← readEntries readFaults readText (readEntryValue (readValue depth)) [] rest
      return (.object es.reverse, rest)) := by
  rw [readValue.eq_def, start]
  rfl

theorem readValue_text (depth : Nat) {cs rest : List Char} (start : skipSpace cs = '"' :: rest) :
    readValue depth cs = (do
      let (s, rest) ← readText rest
      return (.text s, rest)) := by
  rw [readValue.eq_def, start]
  rfl

theorem readValue_minus (depth : Nat) {cs rest : List Char} (start : skipSpace cs = '-' :: rest) :
    readValue depth cs = (do
      let (n, rest) ← readNumber true rest
      return (.number n, rest)) := by
  rw [readValue.eq_def, start]
  rfl

theorem digit_not_sign {c : Char} (digit : c.isDigit = true) :
    c ∉ ['n', 't', 'f', '"', '-', '[', '{'] := by
  intro member
  have none := forall_mem_of_all (p := fun d : Char => d.isDigit = false) (by decide) c member
  exact Bool.false_ne_true (none.symm.trans digit)

theorem readValue_digit (depth : Nat) {cs rest : List Char} {c : Char}
    (start : skipSpace cs = c :: rest) (digit : c.isDigit = true) :
    readValue depth cs = (do
      let (n, rest) ← readNumber false (c :: rest)
      return (.number n, rest)) := by
  have sign := digit_not_sign digit
  rw [readValue.eq_def, start]
  split <;> simp_all

end DropLedger.Json
