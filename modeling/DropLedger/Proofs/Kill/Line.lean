import DropLedger.Proofs.Blank
import DropLedger.Proofs.Json.Soundness
import DropLedger.Proofs.Kill.Layout

/-! The line of a kill. It can be read back with any white space around it, and no part of it that
is cut short can be read at all. -/
namespace DropLedger
open Json

/-- No character of the text is a control character. -/
def Visible (cs : List Char) : Prop := ∀ c ∈ cs, ¬ c < ' '

theorem visible_nil : Visible [] := List.forall_mem_nil _

theorem visible_cons {c : Char} {cs : List Char} (hc : ¬ c < ' ') (h : Visible cs) :
    Visible (c :: cs) :=
  List.forall_mem_cons.mpr ⟨hc, h⟩

theorem visible_append {as bs : List Char} (ha : Visible as) (hb : Visible bs) :
    Visible (as ++ bs) :=
  List.forall_mem_append.mpr ⟨ha, hb⟩

theorem visible_flatMap {α : Type} {write : α → List Char} {as : List α}
    (h : ∀ a ∈ as, Visible (write a)) : Visible (as.flatMap write) := by
  intro c hc
  obtain ⟨a, ha, hc⟩ := List.mem_flatMap.mp hc
  exact h a ha c hc

theorem natural_visible (n : Nat) : Visible (Text.natural n) := by
  intro c hc control
  have digit := natural_digits hc
  have small : c.toNat < 32 := control
  simp only [Char.isDigit, Bool.and_eq_true, decide_eq_true_eq] at digit
  have large : 48 ≤ c.toNat := digit.1
  omega

theorem integer_visible (n : Int) : Visible (Text.integer n) := by
  unfold Text.integer
  split
  · exact visible_cons (by decide) (natural_visible n.natAbs)
  · exact natural_visible n.natAbs

theorem writeText_visible (s : String) : Visible (writeText s) :=
  visible_append (visible_cons (by decide) (visible_flatMap fun _ _ _ => escapeChar_visible))
    (visible_cons (by decide) visible_nil)

theorem compact_visible {depth : Nat} {v : Value} (h : Writable depth v) : Visible v.compact := by
  induction h with
  | null => exact visible_cons (by decide) (forall_mem_of_all (by decide))
  | bool b => cases b <;> exact visible_cons (by decide) (forall_mem_of_all (by decide))
  | whole n => exact integer_visible n
  | text s => exact writeText_visible s
  | @list depth vs _ ih =>
    rw [Value.compact]
    refine visible_append (visible_cons (by decide) ?_) (visible_cons (by decide) visible_nil)
    cases vs with
    | nil => exact visible_nil
    | cons v vs =>
      rw [compactItems_cons]
      exact visible_append (ih v List.mem_cons_self) (visible_flatMap fun w hw =>
        visible_cons (by decide) (ih w (List.mem_cons_of_mem v hw)))
  | @object depth es _ ih =>
    rw [Value.compact]
    refine visible_append (visible_cons (by decide) ?_) (visible_cons (by decide) visible_nil)
    have entry : ∀ e ∈ es, Visible (writeText e.1 ++ ':' :: e.2.compact) := fun e he =>
      visible_append (writeText_visible e.1) (visible_cons (by decide) (ih e he))
    cases es with
    | nil => exact visible_nil
    | cons e es =>
      rw [compactEntries_cons]
      exact visible_append (entry e List.mem_cons_self) (visible_flatMap fun f hf =>
        visible_cons (by decide) (entry f (List.mem_cons_of_mem e hf)))

theorem line_visible (k : Kill) : Visible k.line := compact_visible (kill_writable k 0)

theorem line_braces (k : Kill) : ∃ inner, k.line = '{' :: inner ++ ['}'] :=
  ⟨_, by rw [Kill.line, Kill.toValue, Value.compact]⟩

theorem braces_trimmed (inner : List Char) : Text.Trimmed ('{' :: inner ++ ['}']) := by
  constructor
  · intro c hc
    cases Option.some.inj hc
    decide
  · intro c hc
    rw [List.getLast?_concat] at hc
    cases Option.some.inj hc
    decide

theorem line_trimmed (k : Kill) : Text.Trimmed k.line := by
  obtain ⟨inner, text⟩ := line_braces k
  exact text ▸ braces_trimmed inner

theorem readValue_line (k : Kill) : readValue maxDepth k.line = .ok (k.toValue, []) := by
  have read := readValue_compact (kill_writable k 124) endsNumber_nil
  rw [kill_reread, List.append_nil] at read
  exact read

theorem ofLine_eq_ok {cs : List Char} {s : StoredKill} :
    StoredKill.ofLine cs = .ok s ↔
      ∃ v rest, readValue maxDepth (Text.trimChars cs) = .ok (v, rest) ∧
        StoredKill.ofValue? v = some s ∧ finish rest = .ok () := by
  unfold StoredKill.ofLine
  rw [bind_eq_ok]
  constructor
  · rintro ⟨⟨v, rest⟩, value, ok⟩
    refine ⟨v, rest, value, ?_⟩
    dsimp only at ok
    split at ok
    · cases ok
    · rename_i e he
      obtain ⟨_, ended, ok⟩ := bind_eq_ok.mp ok
      cases ok
      exact ⟨he, ended⟩
  · rintro ⟨v, rest, value, he, ended⟩
    refine ⟨(v, rest), value, ?_⟩
    dsimp only
    rw [he]
    exact bind_eq_ok.mpr ⟨(), ended, rfl⟩

/-- A line that spells a value is read just when the value is in one of the layouts. -/
theorem ofLine_spelled {v : Value} {cs : List Char}
    (h : Spells maxDepth (.ok v) (Text.trimChars cs)) :
    StoredKill.ofLine cs = match StoredKill.ofValue? v with
      | some e => .ok e
      | none => .error .noVariant := by
  unfold StoredKill.ofLine
  rw [h.read_whole]
  dsimp only [bind, Except.bind]
  cases StoredKill.ofValue? v <;> rfl

theorem ofLine_padded (k : Kill) {before after : List Char}
    (hb : ∀ c ∈ before, Text.isBlank c = true) (ha : ∀ c ∈ after, Text.isBlank c = true) :
    StoredKill.ofLine (before ++ k.line ++ after) = .ok ⟨k, .current⟩ := by
  have trimmed := (Text.trimChars_surrounded k.line hb ha).trans
    (Text.trimChars_of_trimmed (line_trimmed k))
  refine ofLine_eq_ok.mpr ⟨k.toValue, [], ?_, ?_, rfl⟩
  · rw [trimmed]
    exact readValue_line k
  · rw [StoredKill.ofValue?, kill_ofValue]

/-- Every kill has a line without control characters, and from that line, whatever white space is
put around it, exactly the kill is read, in the current layout. -/
theorem line_read_back (k : Kill) :
    ('\n' ∉ k.line ∧ ∀ c ∈ k.line, ¬ c < ' ') ∧
      ∀ before after : List Char, (∀ c ∈ before, Text.isBlank c = true) →
        (∀ c ∈ after, Text.isBlank c = true) →
          StoredKill.ofLine (before ++ k.line ++ after) = .ok ⟨k, .current⟩ := by
  have visible := line_visible k
  exact ⟨⟨fun newline => visible '\n' newline (by decide), visible⟩,
    fun before after hb ha => ofLine_padded k hb ha⟩

/-- A name with a quote, a line end and a character past the first plane, extreme numbers, and white
space around the line that JSON does not know. -/
theorem line_read_back_extreme :
    let k : Kill := ⟨⟨-2147483648, by decide, by decide⟩, "\"\n\\😀",
      ⟨2147483647, by decide, by decide⟩, unknown, [⟨"\x00", unknown, ⟨4294967295, by decide, by decide⟩,
        ⟨-9223372036854775808, by decide, by decide⟩⟩]⟩
    (∀ c ∈ ['\u00A0', '\t'], Text.isBlank c = true) ∧
      (∀ c ∈ ['\u3000', '\r'], Text.isBlank c = true) ∧
      StoredKill.ofLine (['\u00A0', '\t'] ++ k.line ++ ['\u3000', '\r']) = .ok ⟨k, .current⟩ := by
  intro k
  have before : ∀ c ∈ ['\u00A0', '\t'], Text.isBlank c = true :=
    forall_mem_of_all (by decide)
  have after : ∀ c ∈ ['\u3000', '\r'], Text.isBlank c = true :=
    forall_mem_of_all (by decide)
  exact ⟨before, after, (line_read_back k).2 _ _ before after⟩

theorem trimChars_begins {cs : List Char} (h : Text.trimLeft cs = cs) :
    Text.trimChars cs <+: cs := by
  rw [Text.trimChars, h]
  exact Text.trimRight_begins cs

theorem finish_ends {rest : List Char} (h : finish rest = .ok ()) : EndsNumber rest := by
  obtain ⟨g, front⟩ := Gap.front rest
  simp only [finish] at h
  split at h
  · rename_i blank
    rw [front, List.isEmpty_iff.mp blank]
    exact g.ends endsNumber_nil
  · cases h

theorem trimLeft_cut {k : Kill} {cs : List Char} (start : cs <+: k.line) :
    Text.trimLeft cs = cs := by
  refine Text.trimLeft_of_visible fun c first => ?_
  obtain ⟨more, whole⟩ := start
  obtain ⟨inner, braces⟩ := line_braces k
  cases cs with
  | nil => cases first
  | cons d ds =>
    rw [braces] at whole
    cases (List.cons.inj whole).1
    cases first
    rfl

/-- A spelling of a kill is not that of a number, so its end does not depend on what follows. -/
theorem spelling_not_numeral {v : Value} {s : StoredKill} {text : List Char}
    (spelled : Spells maxDepth (.ok v) text) (stored : StoredKill.ofValue? v = some s)
    (n : Numeral) : text ≠ n.text := by
  rintro rfl
  have number := readValue_numeral maxDepth n endsNumber_nil
  rw [spelled.read _ fun _ _ => endsNumber_nil] at number
  cases same : n.value with
  | error f =>
    rw [same] at number
    cases number
  | ok x =>
    rw [same] at number
    cases number
    cases stored

/-- What is left of a line that was cut short cannot be read. -/
theorem ofLine_cut {k : Kill} {cs : List Char} (start : cs <+: k.line) (short : cs ≠ k.line)
    (s : StoredKill) : StoredKill.ofLine cs ≠ .ok s := by
  intro ok
  obtain ⟨v, rest, value, stored, ended⟩ := ofLine_eq_ok.mp ok
  have left := trimChars_begins (trimLeft_cut start)
  obtain ⟨more, whole⟩ := left.trans start
  obtain ⟨g, text, front, spelled⟩ := readValue_sound maxDepth value (finish_ends ended)
  -- With the rest of the line behind it the same value would be read, and the rest would be left.
  have longer : readValue maxDepth (Text.trimChars cs ++ more) = .ok (v, rest ++ more) := by
    have read := spelled.read (rest ++ more) fun n same =>
      absurd same (spelling_not_numeral spelled stored n)
    rw [← readValue_gap maxDepth g, ← List.append_assoc text, ← List.append_assoc g.chars, ← front]
      at read
    exact read
  rw [whole, readValue_line] at longer
  have rest_nil := (Prod.mk.inj (Except.ok.inj longer)).2
  have more_nil : more = [] := (List.append_eq_nil_iff.mp rest_nil.symm).2
  rw [more_nil, List.append_nil] at whole
  have long : k.line.length ≤ cs.length := whole ▸ left.length_le
  exact short (start.eq_of_length (Nat.le_antisymm start.length_le long))

end DropLedger
