import DropLedger.Text.Blank
import Mathlib.Data.List.TakeWhile

/-! Cutting white space off a text. What is left is what lies between the outermost characters that
can be seen. -/
namespace DropLedger.Text

/-- The ends of a text that trimming leaves as it is. -/
def Trimmed (cs : List Char) : Prop :=
  (∀ c, cs.head? = some c → isBlank c = false) ∧ ∀ c, cs.getLast? = some c → isBlank c = false

theorem trimLeft_of_visible {cs : List Char} (h : ∀ c, cs.head? = some c → isBlank c = false) :
    trimLeft cs = cs := by
  cases cs with
  | nil => rfl
  | cons c cs => simp [trimLeft, h c rfl]

theorem trimRight_of_visible {cs : List Char} (h : ∀ c, cs.getLast? = some c → isBlank c = false) :
    trimRight cs = cs := by
  have reversed : trimLeft cs.reverse = cs.reverse :=
    trimLeft_of_visible fun c hc => h c (by rwa [List.head?_reverse] at hc)
  change (trimLeft cs.reverse).reverse = cs
  rw [reversed, List.reverse_reverse]

theorem trimChars_of_trimmed {cs : List Char} (h : Trimmed cs) : trimChars cs = cs := by
  rw [trimChars, trimLeft_of_visible h.1, trimRight_of_visible h.2]

theorem trimLeft_blank {before cs : List Char} (h : ∀ c ∈ before, isBlank c = true) :
    trimLeft (before ++ cs) = trimLeft cs :=
  List.dropWhile_append_of_pos h

theorem trimRight_blank {cs after : List Char} (h : ∀ c ∈ after, isBlank c = true) :
    trimRight (cs ++ after) = trimRight cs := by
  have reversed : trimLeft (after.reverse ++ cs.reverse) = trimLeft cs.reverse :=
    trimLeft_blank fun c hc => h c (List.mem_reverse.mp hc)
  change (trimLeft (cs ++ after).reverse).reverse = (trimLeft cs.reverse).reverse
  rw [List.reverse_append, reversed]

/-- White space around a text does not count, whatever the text is. -/
theorem trimChars_surrounded {before after : List Char} (cs : List Char)
    (hb : ∀ c ∈ before, isBlank c = true) (ha : ∀ c ∈ after, isBlank c = true) :
    trimChars (before ++ cs ++ after) = trimChars cs := by
  rw [trimChars, List.append_assoc, trimLeft_blank hb, trimChars]
  unfold trimLeft
  rw [List.dropWhile_append]
  split
  · rename_i none
    rw [List.isEmpty_iff.mp none, List.dropWhile_eq_nil_iff.mpr ha]
  · exact trimRight_blank ha

theorem trimLeft_head {cs : List Char} {c : Char} (h : (trimLeft cs).head? = some c) :
    isBlank c = false := by
  have first := List.head?_dropWhile_not isBlank cs
  rw [show cs.dropWhile isBlank = trimLeft cs from rfl, h] at first
  exact first

theorem trimChars_eq_nil {cs : List Char} : trimChars cs = [] ↔ ∀ c ∈ cs, isBlank c = true := by
  constructor
  · intro none
    rw [trimChars, trimRight, List.reverse_eq_nil_iff, List.dropWhile_eq_nil_iff] at none
    cases left : trimLeft cs with
    | nil => exact List.dropWhile_eq_nil_iff.mp left
    | cons d ds =>
      -- What is left of the text would begin with a character that can be seen.
      have first : (trimLeft cs).head? = some d := by rw [left]; rfl
      have seen := trimLeft_head first
      have blank := none d (by simp [left])
      rw [seen] at blank
      cases blank
  · intro blank
    have none : ∀ c ∈ ([] : List Char), isBlank c = true := nofun
    have whole := trimChars_surrounded [] blank none
    rwa [List.append_nil, List.append_nil] at whole

theorem trimRight_begins (cs : List Char) : trimRight cs <+: cs := by
  have turned := List.reverse_prefix.mpr (List.dropWhile_suffix (l := cs.reverse) isBlank)
  rwa [List.reverse_reverse] at turned

theorem trimChars_trimmed (cs : List Char) : Trimmed (trimChars cs) := by
  constructor
  · intro c hc
    obtain ⟨more, whole⟩ := trimRight_begins (trimLeft cs)
    change trimChars cs ++ more = trimLeft cs at whole
    cases trimmed : trimChars cs with
    | nil =>
      rw [trimmed] at hc
      cases hc
    | cons d ds =>
      rw [trimmed] at hc whole
      cases hc
      have front : (trimLeft cs).head? = some c := by rw [← whole]; rfl
      exact trimLeft_head front
  · intro c hc
    rw [trimChars, trimRight, List.getLast?_reverse] at hc
    have front : (trimLeft (trimLeft cs).reverse).head? = some c := hc
    exact trimLeft_head front

theorem trim_toList (s : String) : (trim s).toList = trimChars s.toList := String.toList_ofList

theorem trim_trim (s : String) : trim (trim s) = trim s := by
  rw [trim, trim_toList, trimChars_of_trimmed (trimChars_trimmed _), ← trim]

end DropLedger.Text
