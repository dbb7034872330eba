import DropLedger.Proofs.Json.Layout
import DropLedger.Proofs.Kill.Line

/-! Reading a line by way of a value and decoding its text straight. A line is read just when one of
the two layouts takes its text straight, the current one before the older one. -/
namespace DropLedger
open Json

theorem field_agrees {σ α : Type} {name : String} {required : Bool} {d : Decoder α}
    (agrees : d.Agrees) (get : σ → Option α) (set : σ → α → σ) :
    (Field.of name required d get set).decoder.Agrees :=
  Decoder.map_agrees agrees fun a s => set s a

theorem name_agrees : decodeName.Agrees := Decoder.text_agrees _

theorem signed32_agrees : decodeSigned32.Agrees := Decoder.integer_agrees _ _ _

theorem unsigned32_agrees : decodeUnsigned32.Agrees := Decoder.integer_agrees _ _ _

theorem signed64_agrees : decodeSigned64.Agrees := Decoder.integer_agrees _ _ _

namespace Current

theorem drop_agrees : dropLayout.decoder.Agrees := by
  apply Layout.agrees
  simp only [dropLayout, List.forall_mem_cons, List.not_mem_nil, false_implies, implies_true,
    and_true]
  exact ⟨field_agrees name_agrees _ _, field_agrees signed32_agrees _ _,
    field_agrees unsigned32_agrees _ _, field_agrees signed64_agrees _ _⟩

theorem kill_agrees : killLayout.decoder.Agrees := by
  apply Layout.agrees
  simp only [killLayout, List.forall_mem_cons, List.not_mem_nil, false_implies, implies_true,
    and_true]
  exact ⟨field_agrees signed32_agrees _ _, field_agrees name_agrees _ _,
    field_agrees signed32_agrees _ _, field_agrees signed32_agrees _ _,
    field_agrees (Decoder.list_agrees drop_agrees) _ _⟩

end Current

namespace Older

theorem drop_agrees : dropLayout.decoder.Agrees := by
  apply Layout.agrees
  simp only [dropLayout, List.forall_mem_cons, List.not_mem_nil, false_implies, implies_true,
    and_true]
  exact ⟨field_agrees signed32_agrees _ _, field_agrees name_agrees _ _,
    field_agrees unsigned32_agrees _ _, field_agrees signed64_agrees _ _⟩

theorem kill_agrees : killLayout.decoder.Agrees := by
  apply Layout.agrees
  simp only [killLayout, List.forall_mem_cons, List.not_mem_nil, false_implies, implies_true,
    and_true]
  exact ⟨field_agrees signed32_agrees _ _, field_agrees name_agrees _ _,
    field_agrees signed32_agrees _ _, field_agrees signed32_agrees _ _,
    field_agrees (Decoder.list_agrees drop_agrees) _ _⟩

end Older

/-- A value that was read from a whole text is what decoding the text straight sees. -/
theorem decode_toOption {α : Type} {d : Decoder α} (agrees : d.Agrees) {depth : Nat} {v : Value}
    {cs rest : List Char} (value : readValue depth cs = .ok (v, rest))
    (ended : finish rest = .ok ()) : (decode d cs).toOption = d.ofValue v := by
  obtain ⟨g, text, front, spelled⟩ := readValue_sound depth value (finish_ends ended)
  rw [← agrees.same spelled, front, decode,
    agrees.reads spelled g rest (finish_ends ended)]
  cases outcome d.read text with
  | error fault => rfl
  | ok a =>
    change ((finish rest >>= fun _ => .ok a) : Except Fault α).toOption = _
    rw [ended]
    rfl

theorem toOption_eq_some {ε α : Type} {x : Except ε α} {a : α} :
    x.toOption = some a ↔ x = .ok a := by
  cases x <;> simp [Except.toOption]

theorem toOption_eq_none {ε α : Type} {x : Except ε α} (none : x.toOption = none) (a : α) :
    x ≠ .ok a := by
  rintro rfl
  cases none

theorem ofValue?_current {v : Value} {k : Kill} (h : StoredKill.ofValue? v = some ⟨k, .current⟩) :
    Current.killLayout.decoder.ofValue v = some k := by
  unfold StoredKill.ofValue? at h
  split at h
  · rename_i found
    cases h
    exact found
  · obtain ⟨j, _, same⟩ := Option.map_eq_some_iff.mp h
    cases same

theorem ofValue?_older {v : Value} {k : Kill} (h : StoredKill.ofValue? v = some ⟨k, .older⟩) :
    Current.killLayout.decoder.ofValue v = none ∧ Older.killLayout.decoder.ofValue v = some k := by
  unfold StoredKill.ofValue? at h
  split at h
  · cases h
  · rename_i none
    obtain ⟨j, found, same⟩ := Option.map_eq_some_iff.mp h
    cases same
    exact ⟨none, found⟩

theorem ofValue?_none {v : Value} (h : StoredKill.ofValue? v = none) :
    Current.killLayout.decoder.ofValue v = none ∧ Older.killLayout.decoder.ofValue v = none := by
  unfold StoredKill.ofValue? at h
  split at h
  · cases h
  · rename_i none
    exact ⟨none, Option.map_eq_none_iff.mp h⟩

/-- Whatever line is read in the current layout, its text decodes straight in that layout to the
same kill; whatever line is read in the older one does not decode straight in the current one, and
does in the older one, to the same kill. A line that spells a value is refused only if its text
decodes straight in neither. -/
theorem layouts_decode_straight (cs : List Char) :
    (∀ k, StoredKill.ofLine cs = .ok ⟨k, .current⟩ →
      decode Current.killLayout.decoder (Text.trimChars cs) = .ok k) ∧
    (∀ k, StoredKill.ofLine cs = .ok ⟨k, .older⟩ →
      (∀ j, decode Current.killLayout.decoder (Text.trimChars cs) ≠ .ok j) ∧
        decode Older.killLayout.decoder (Text.trimChars cs) = .ok k) ∧
    (∀ v fault, Spells maxDepth (.ok v) (Text.trimChars cs) → StoredKill.ofLine cs = .error fault →
      (∀ j, decode Current.killLayout.decoder (Text.trimChars cs) ≠ .ok j) ∧
        ∀ j, decode Older.killLayout.decoder (Text.trimChars cs) ≠ .ok j) := by
  refine ⟨?_, ?_, ?_⟩
  · intro k ok
    obtain ⟨v, rest, value, stored, ended⟩ := ofLine_eq_ok.mp ok
    have current := decode_toOption Current.kill_agrees value ended
    rw [ofValue?_current stored] at current
    exact toOption_eq_some.mp current
  · intro k ok
    obtain ⟨v, rest, value, stored, ended⟩ := ofLine_eq_ok.mp ok
    have current := decode_toOption Current.kill_agrees value ended
    have older := decode_toOption Older.kill_agrees value ended
    rw [(ofValue?_older stored).1] at current
    rw [(ofValue?_older stored).2] at older
    exact ⟨toOption_eq_none current, toOption_eq_some.mp older⟩
  · intro v fault spelled refused
    have value := spelled.read_whole
    have current := decode_toOption Current.kill_agrees value rfl
    have older := decode_toOption Older.kill_agrees value rfl
    have neither : StoredKill.ofValue? v = none := by
      rw [ofLine_spelled spelled] at refused
      cases stored : StoredKill.ofValue? v with
      | none => rfl
      | some e =>
        rw [stored] at refused
        cases refused
    rw [(ofValue?_none neither).1] at current
    rw [(ofValue?_none neither).2] at older
    exact ⟨toOption_eq_none current, toOption_eq_none older⟩

/-- A kill and its drop as lists, with white space around. -/
def rowLine : List Char := " [415, \"A\", 124, 4, [[\"B\", 592, 5, 6]]]\n".toList

def rowKill : Kill where
  id := ⟨415, by decide, by decide⟩
  name := "A"
  level := ⟨124, by decide, by decide⟩
  killCount := ⟨4, by decide, by decide⟩
  drops := [⟨"B", ⟨592, by decide, by decide⟩, ⟨5, by decide, by decide⟩,
    ⟨6, by decide, by decide⟩⟩]

/-- A key of the current layout with a value that is no id, which the older layout skips. -/
def oddLine : List Char := "\x7b\"id\":[\x7b\x7d],\"npcName\":\"A\",\"drops\":[[592]]\x7d".toList

def oddKill : Kill where
  id := unknown
  name := "A"
  level := unknown
  killCount := unknown
  drops := [⟨"", ⟨592, by decide, by decide⟩, Unsigned32.zero, Signed64.zero⟩]

/-- A name given twice. -/
def twiceNamed : Value := .object [("npcName", .text "A"), ("npcName", .text "A")]

theorem twiceNamed_spelled : Spells maxDepth (.ok twiceNamed) twiceNamed.compact := by
  have writable : Writable maxDepth twiceNamed := by
    refine .object fun e member => ?_
    simp only [List.mem_cons, List.not_mem_nil, or_false, or_self] at member
    rw [member]
    exact .text "A"
  exact writable.spelled

/-- Lists in place of objects, a key that is skipped, and one that is given twice. -/
theorem odd_lines_straight :
    (StoredKill.ofLine rowLine = .ok ⟨rowKill, .current⟩ ∧
      decode Current.killLayout.decoder (Text.trimChars rowLine) = .ok rowKill) ∧
    (StoredKill.ofLine oddLine = .ok ⟨oddKill, .older⟩ ∧
      (∀ j, decode Current.killLayout.decoder (Text.trimChars oddLine) ≠ .ok j) ∧
        decode Older.killLayout.decoder (Text.trimChars oddLine) = .ok oddKill) ∧
    (Spells maxDepth (.ok twiceNamed) (Text.trimChars twiceNamed.compact) ∧
      StoredKill.ofLine twiceNamed.compact = .error .noVariant ∧
        (∀ j, decode Current.killLayout.decoder (Text.trimChars twiceNamed.compact) ≠ .ok j) ∧
          ∀ j, decode Older.killLayout.decoder (Text.trimChars twiceNamed.compact) ≠ .ok j) := by
  have row : StoredKill.ofLine rowLine = .ok ⟨rowKill, .current⟩ := rfl
  have odd : StoredKill.ofLine oddLine = .ok ⟨oddKill, .older⟩ := rfl
  have refused : StoredKill.ofLine twiceNamed.compact = .error .noVariant := rfl
  have trimmed : Text.trimChars twiceNamed.compact = twiceNamed.compact := rfl
  have spelled : Spells maxDepth (.ok twiceNamed) (Text.trimChars twiceNamed.compact) :=
    trimmed ▸ twiceNamed_spelled
  exact ⟨⟨row, (layouts_decode_straight rowLine).1 rowKill row⟩,
    ⟨odd, (layouts_decode_straight oddLine).2.1 oddKill odd⟩,
    spelled, refused, (layouts_decode_straight twiceNamed.compact).2.2 twiceNamed _ spelled refused⟩

end DropLedger
