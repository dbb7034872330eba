import DropLedger.Proofs.Kill.Log
import DropLedger.Store.Reading

/-! A log is read line by line. What a line comes to depends on the line alone, whatever bytes stand
around it, and neither white space at its ends nor the manner of the line ends make a difference. -/
namespace DropLedger

/-- What is read from bytes: the kills, each with its layout, and how many lines were skipped. -/
structure Yield where
  stored : List StoredKill
  skipped : Nat
deriving DecidableEq

/-- Lines with a line end after each but the last. -/
def joinLines (lines : List Bytes) : Bytes := [newline].intercalate lines

@[simp] theorem joinLines_nil : joinLines [] = [] := rfl

@[simp] theorem joinLines_singleton (line : Bytes) : joinLines [line] = line :=
  List.intercalate_singleton

@[simp] theorem joinLines_cons_cons (line next : Bytes) (lines : List Bytes) :
    joinLines (line :: next :: lines) = line ++ newline :: joinLines (next :: lines) := by
  simp [joinLines, List.intercalate_cons_cons]

/-- The content with a carriage return put before each line end. -/
def crlf (content : Bytes) : Bytes :=
  content.flatMap fun b => if b = newline then [0x0D, newline] else [b]

/-- The line with white space at its ends. -/
def Padded (line padded : Bytes) : Prop :=
  ∃ before after : List Char,
    (∀ c ∈ before ++ after, Text.isBlank c = true ∧ c ≠ '\n') ∧
      padded = Utf8.encode before ++ line ++ Utf8.encode after

theorem Padded.alone {line padded : Bytes} (h : Padded line padded) (alone : newline ∉ line) :
    newline ∉ padded := by
  obtain ⟨before, after, blank, rfl⟩ := h
  have outside : ∀ cs : List Char, (∀ c ∈ cs, c ≠ '\n') → newline ∉ Utf8.encode cs := by
    intro cs other member
    exact other '\n' ((Utf8.mem_encode_ascii (n := 10) (by decide)).mp member) rfl
  simp only [List.mem_append, not_or]
  refine ⟨⟨outside before ?_, alone⟩, outside after ?_⟩
  · intro c member
    exact (blank c (List.mem_append_left _ member)).2
  · intro c member
    exact (blank c (List.mem_append_right _ member)).2

namespace Yield

instance : Append Yield := ⟨fun a b => ⟨a.stored ++ b.stored, a.skipped + b.skipped⟩⟩

def nothing : Yield := ⟨[], 0⟩

def kill (k : StoredKill) : Yield := ⟨[k], 0⟩

def skip : Yield := ⟨[], 1⟩

/-- What is read from a content. -/
def of (content : Bytes) : Yield := ⟨(Log.read content).stored, (Log.read content).skipped⟩

theorem append_def (a b : Yield) : a ++ b = ⟨a.stored ++ b.stored, a.skipped + b.skipped⟩ := rfl

@[simp] theorem nothing_append (a : Yield) : nothing ++ a = a := by
  simp [append_def, nothing]

@[simp] theorem append_nothing (a : Yield) : a ++ nothing = a := by
  simp [append_def, nothing]

theorem append_assoc (a b c : Yield) : a ++ b ++ c = a ++ (b ++ c) := by
  simp [append_def, Nat.add_assoc]

theorem of_append (a b : Bytes) : of (a ++ newline :: b) = of a ++ of b := by
  simp only [of, Log.stored_append, Log.skipped_append, append_def]

theorem of_nil : of [] = nothing := rfl

section Lines

variable {line padded : Bytes} {lines : List Bytes}

theorem of_cons (line : Bytes) (lines : List Bytes) :
    of (joinLines (line :: lines)) = of line ++ of (joinLines lines) := by
  cases lines with
  | nil => simp [of_nil]
  | cons next lines => rw [joinLines_cons_cons, of_append]

theorem of_lines_append (lines more : List Bytes) :
    of (joinLines (lines ++ more)) = of (joinLines lines) ++ of (joinLines more) := by
  induction lines with
  | nil => simp [of_nil]
  | cons line lines ih => rw [List.cons_append, of_cons, of_cons, ih, append_assoc]

theorem of_lines_insert (before after : List Bytes) (line : Bytes) :
    of (joinLines (before ++ line :: after)) =
      of (joinLines before) ++ of line ++ of (joinLines after) := by
  rw [of_lines_append, of_cons, append_assoc]

theorem lines_of (content : Bytes) :
    ∃ lines, (∀ line ∈ lines, newline ∉ line) ∧ joinLines lines = content :=
  ⟨splitBytes newline content, fun _ => not_mem_of_splitBytes, intercalate_splitBytes content⟩

/-- What a single line comes to. -/
theorem of_line (alone : newline ∉ line) :
    of line = match LogLine.read line with
      | .blank => nothing
      | .kill k => kill k
      | .notText _ | .malformed _ => skip := by
  unfold of
  rw [Log.read_single alone]
  cases LogLine.read line <;> rfl

theorem of_blank {cs : List Char} (alone : newline ∉ line) (text : Utf8.decode line = .ok cs)
    (blank : ∀ c ∈ cs, Text.isBlank c = true) : of line = nothing := by
  rw [of_line alone, LogLine.read, text]
  simp [Text.trimChars_eq_nil.mpr blank]

/-- What can be read as a kill is not blank. -/
theorem seen_of_ofLine {cs : List Char} {k : StoredKill} (read : StoredKill.ofLine cs = .ok k) :
    Text.trimChars cs ≠ [] := by
  intro none
  obtain ⟨v, rest, value, _⟩ := ofLine_eq_ok.mp read
  rw [none] at value
  cases value

theorem of_kill {cs : List Char} {k : StoredKill} (alone : newline ∉ line)
    (text : Utf8.decode line = .ok cs) (read : StoredKill.ofLine cs = .ok k) :
    of line = kill k := by
  rw [of_line alone, LogLine.read, text]
  simp [seen_of_ofLine read, read]

theorem of_unread (alone : newline ∉ line)
    (unread : ∀ cs, Utf8.decode line = .ok cs →
      (∃ c ∈ cs, Text.isBlank c = false) ∧ ∀ k, StoredKill.ofLine cs ≠ .ok k) :
    of line = skip := by
  rw [of_line alone, LogLine.read]
  cases text : Utf8.decode line with
  | error fault => rfl
  | ok cs =>
    obtain ⟨⟨c, member, visible⟩, none⟩ := unread cs text
    have seen : Text.trimChars cs ≠ [] := by
      intro empty
      have blank := Text.trimChars_eq_nil.mp empty c member
      rw [visible] at blank
      cases blank
    cases read : StoredKill.ofLine cs with
    | ok k => exact absurd read (none k)
    | error fault => simp [seen, read]

/-- White space around a line changes nothing, even where the line is no text. -/
theorem of_padded (h : Padded line padded) (alone : newline ∉ line) : of padded = of line := by
  rw [of_line alone, of_line (h.alone alone)]
  obtain ⟨before, after, blank, rfl⟩ := h
  have left : ∀ c ∈ before, Text.isBlank c = true :=
    fun c member => (blank c (List.mem_append_left _ member)).1
  have right : ∀ c ∈ after, Text.isBlank c = true :=
    fun c member => (blank c (List.mem_append_right _ member)).1
  unfold LogLine.read
  cases text : Utf8.decode line with
  | ok cs =>
    have whole : Utf8.decode (Utf8.encode before ++ line ++ Utf8.encode after) =
        .ok (before ++ cs ++ after) := Utf8.decode_surrounded.mpr ⟨cs, text, rfl⟩
    have same := Text.trimChars_surrounded cs left right
    rw [whole]
    simp only [StoredKill.ofLine, same]
  | error fault =>
    -- Bytes that are no text do not become one by the text around them.
    cases whole : Utf8.decode (Utf8.encode before ++ line ++ Utf8.encode after) with
    | error other => rfl
    | ok cs =>
      obtain ⟨inner, read, _⟩ := Utf8.decode_surrounded.mp whole
      rw [text] at read
      cases read

theorem of_lines_padded {others : List Bytes} (padded : List.Forall₂ Padded lines others)
    (alone : ∀ line ∈ lines, newline ∉ line) : of (joinLines others) = of (joinLines lines) := by
  induction padded with
  | nil => rfl
  | cons first _ ih =>
    obtain ⟨single, rest⟩ := List.forall_mem_cons.mp alone
    rw [of_cons, of_cons, of_padded first single, ih rest]

theorem crlf_line (alone : newline ∉ line) : crlf line = line := by
  induction line with
  | nil => rfl
  | cons b line ih =>
    simp only [List.mem_cons, not_or] at alone
    have rest := ih alone.2
    simp only [crlf, List.flatMap_cons, if_neg (Ne.symm alone.1)] at rest ⊢
    rw [rest, List.singleton_append]

theorem of_crlf_joinLines (alone : ∀ line ∈ lines, newline ∉ line) :
    of (crlf (joinLines lines)) = of (joinLines lines) := by
  induction lines with
  | nil => rfl
  | cons line lines ih =>
    obtain ⟨single, rest⟩ := List.forall_mem_cons.mp alone
    cases lines with
    | nil => rw [joinLines_singleton, crlf_line single]
    | cons next lines =>
      have ends : crlf (line ++ newline :: joinLines (next :: lines)) =
          (line ++ [0x0D]) ++ newline :: crlf (joinLines (next :: lines)) := by
        have first := crlf_line single
        unfold crlf at first ⊢
        rw [List.flatMap_append, first]
        simp
      have returned : Padded line (line ++ [0x0D]) :=
        ⟨[], ['\r'], forall_mem_of_all (by decide), rfl⟩
      rw [joinLines_cons_cons, ends, of_append, of_append, of_padded returned single, ih rest]

theorem of_crlf (content : Bytes) : of (crlf content) = of content := by
  obtain ⟨lines, alone, rfl⟩ := lines_of content
  exact of_crlf_joinLines alone

end Lines

/-- A file that can be read gives what its content gives, whatever the bytes are. What stands before
a line end and what stands after it are read each on its own. A single line gives nothing if it is
white space, a kill if it can be read as one, and else it counts as skipped. So a line that is put
in, taken out or changed leaves what the others give, and neither white space around lines nor
carriage returns before line ends change anything. -/
theorem lines_stand_alone :
    (∀ (d : Disk) p content, d.read p = .ok content →
        ∃ log, d.readLog p = .ok log ∧ ⟨log.stored, log.skipped⟩ = of content) ∧
      (∀ a b : Bytes, of (a ++ newline :: b) = of a ++ of b) ∧
      (∀ line : Bytes, newline ∉ line →
        ((∃ cs, Utf8.decode line = .ok cs ∧ ∀ c ∈ cs, Text.isBlank c = true) →
            of line = nothing) ∧
          (∀ k, (∃ cs, Utf8.decode line = .ok cs ∧ StoredKill.ofLine cs = .ok k) →
            of line = kill k) ∧
          ((∀ cs, Utf8.decode line = .ok cs →
              (∃ c ∈ cs, Text.isBlank c = false) ∧ ∀ k, StoredKill.ofLine cs ≠ .ok k) →
            of line = skip)) ∧
      (∀ content, ∃ lines, (∀ line ∈ lines, newline ∉ line) ∧ joinLines lines = content) ∧
      (∀ before after : List Bytes,
        of (joinLines (before ++ after)) = of (joinLines before) ++ of (joinLines after) ∧
          ∀ line, of (joinLines (before ++ line :: after)) =
            of (joinLines before) ++ of line ++ of (joinLines after)) ∧
      (∀ content, of (crlf content) = of content) ∧
      (∀ lines padded : List Bytes, (∀ line ∈ lines, newline ∉ line) →
        List.Forall₂ Padded lines padded → of (joinLines padded) = of (joinLines lines)) := by
  refine ⟨?_, of_append, ?_, lines_of, ?_, of_crlf, ?_⟩
  · intro d p content read
    exact ⟨Log.read content, by rw [Disk.readLog, read], rfl⟩
  · intro line alone
    refine ⟨?_, ?_, of_unread alone⟩
    · rintro ⟨cs, text, blank⟩
      exact of_blank alone text blank
    · rintro k ⟨cs, text, read⟩
      exact of_kill alone text read
  · intro before after
    exact ⟨of_lines_append before after, of_lines_insert before after⟩
  · intro lines others alone padded
    exact of_lines_padded padded alone

/-- A kill, a line that breaks off inside a character, and a line of white space. -/
def mixed : List Bytes :=
  [Utf8.encode (Kill.ofEvent "AB" unknown []).line, [0x7B, 0xC3], Utf8.encode ['\u3000']]

def mixedPadded : List Bytes :=
  mixed.map fun line => Utf8.encode ['\u0085', '\t'] ++ line ++ Utf8.encode ['\u00A0', '\r']

theorem mixed_padded :
    (∀ line ∈ mixed, newline ∉ line) ∧ List.Forall₂ Padded mixed mixedPadded ∧
      of (joinLines mixedPadded) = ⟨[⟨Kill.ofEvent "AB" unknown [], .current⟩], 1⟩ := by
  have alone : ∀ line ∈ mixed, newline ∉ line := by decide +kernel
  have padded : List.Forall₂ Padded mixed mixedPadded := by
    have each : ∀ line, Padded line
        (Utf8.encode ['\u0085', '\t'] ++ line ++ Utf8.encode ['\u00A0', '\r']) :=
      fun line => ⟨['\u0085', '\t'], ['\u00A0', '\r'], forall_mem_of_all (by decide), rfl⟩
    exact .cons (each _) (.cons (each _) (.cons (each _) .nil))
  obtain ⟨_, _, _, _, _, _, kept⟩ := lines_stand_alone
  have plain : of (joinLines mixed) = ⟨[⟨Kill.ofEvent "AB" unknown [], .current⟩], 1⟩ := by
    decide +kernel
  exact ⟨alone, padded, (kept _ _ alone padded).trans plain⟩

end Yield

end DropLedger
