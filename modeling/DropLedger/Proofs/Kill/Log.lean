import DropLedger.Kill.Log
import DropLedger.Proofs.Kill.Line
import DropLedger.Proofs.Lines
import DropLedger.Proofs.Utf8

/-! Logs. Every line counts on its own, so a log that grows by whole lines grows by what those lines
hold, and a line that is cut short holds nothing. -/
namespace DropLedger

theorem line_no_newline (k : Kill) : newline ∉ Utf8.encode k.line := by
  intro h
  have char : '\n' ∈ k.line := (Utf8.mem_encode_ascii (n := 10) (by decide)).mp h
  exact line_visible k '\n' char (by decide)

namespace LogLine

theorem read_line (k : Kill) : read (Utf8.encode k.line) = .kill ⟨k, .current⟩ := by
  have none : ∀ c ∈ ([] : List Char), Text.isBlank c = true := nofun
  have whole := ofLine_padded k none none
  rw [List.nil_append, List.append_nil] at whole
  obtain ⟨inner, braces⟩ := line_braces k
  have some : ¬ (Text.trimChars k.line).isEmpty = true := by
    rw [Text.trimChars_of_trimmed (line_trimmed k), braces]
    simp
  simp only [read, Utf8.decode_encode, if_neg some, whole]

/-- A line of text that is not blank is skipped just when no kill is read from it. -/
theorem skipped_text {cs : List Char} (some : (Text.trimChars cs).isEmpty = false) :
    (read (Utf8.encode cs)).isSkipped = true ↔ ¬ ∃ s, StoredKill.ofLine cs = .ok s := by
  simp only [read, Utf8.decode_encode, some]
  cases line : StoredKill.ofLine cs with
  | ok s => simp [isSkipped]
  | error fault => simp [isSkipped]

theorem read_cut {k : Kill} {bs : Bytes} (start : bs <+: Utf8.encode k.line)
    (short : bs ≠ Utf8.encode k.line) : (read bs).kill? = none := by
  unfold read
  split
  · rfl
  · rename_i cs decoded
    split
    · rfl
    · have part := Utf8.prefix_of_decode decoded start
      have other : cs ≠ k.line := by
        rintro rfl
        exact short (Utf8.encode_of_decode decoded).symm
      split
      · rename_i s ok
        exact absurd ok (ofLine_cut part other s)
      · rfl

end LogLine

namespace Log

theorem read_append (as bs : Bytes) :
    read (as ++ newline :: bs) = ⟨(read as).lines ++ (read bs).lines⟩ := by
  simp only [read, splitBytes_append, List.map_append]

theorem read_single {bs : Bytes} (h : newline ∉ bs) : read bs = ⟨[LogLine.read bs]⟩ := by
  simp only [read, splitBytes_of_not_mem h, List.map_cons, List.map_nil]

theorem stored_append (as bs : Bytes) :
    (read (as ++ newline :: bs)).stored = (read as).stored ++ (read bs).stored := by
  simp only [read_append, stored, List.filterMap_append]

theorem skipped_append (as bs : Bytes) :
    (read (as ++ newline :: bs)).skipped = (read as).skipped + (read bs).skipped := by
  simp only [read_append, skipped, List.countP_append]

theorem stored_nil : (read []).stored = [] := rfl

theorem skipped_nil : (read []).skipped = 0 := rfl

theorem write_cons (k : Kill) (ks : List Kill) :
    write (k :: ks) = Utf8.encode k.line ++ newline :: write ks := by
  simp [write]

theorem write_append (ks js : List Kill) : write (ks ++ js) = write ks ++ write js := by
  simp [write]

/-- A log that was written holds the kills that were written, in the current layout, and nothing
else. -/
theorem read_write (ks : List Kill) :
    (read (write ks)).stored = ks.map (⟨·, .current⟩) ∧ (read (write ks)).skipped = 0 := by
  induction ks with
  | nil => exact ⟨rfl, rfl⟩
  | cons k ks ih =>
    have single := read_single (line_no_newline k)
    rw [LogLine.read_line] at single
    rw [write_cons, stored_append, skipped_append, ih.1, ih.2, single]
    exact ⟨rfl, rfl⟩

theorem kills_write (ks : List Kill) : (read (write ks)).kills = ks := by
  simp [kills, (read_write ks).1, Function.comp_def]

/-- What is put on a line of its own adds what it holds. -/
theorem read_freshLine (content more : Bytes) :
    (read (content ++ freshLine content more)).stored =
        (read content).stored ++ (read more).stored ∧
      (read (content ++ freshLine content more)).skipped =
        (read content).skipped + (read more).skipped := by
  rcases freshLine_cases content more with ⟨same, rfl | ⟨before, rfl⟩⟩ | ⟨fresh, _⟩
  · rw [same]
    exact ⟨rfl, (Nat.zero_add _).symm⟩
  · rw [same, List.append_assoc, List.singleton_append, stored_append, stored_append,
      skipped_append, skipped_append, stored_nil, skipped_nil]
    simp
  · rw [fresh, stored_append, skipped_append]
    exact ⟨rfl, rfl⟩

/-- After lines that hold no kill, a kill on a line of its own is the only one. -/
theorem read_lone {content : Bytes} (none : (read content).kills = []) (k : Kill) :
    (read (content ++ freshLine content (write [k]))).stored = [⟨k, .current⟩] ∧
      (read (content ++ freshLine content (write [k]))).skipped = (read content).skipped := by
  obtain ⟨stored, skipped⟩ := read_freshLine content (write [k])
  have before : (read content).stored = [] := List.map_eq_nil_iff.mp none
  rw [(read_write [k]).1, before, List.nil_append] at stored
  rw [(read_write [k]).2, Nat.add_zero] at skipped
  exact ⟨stored, skipped⟩

theorem older_write (ks : List Kill) : (read (write ks)).older = 0 := by
  rw [older, (read_write ks).1]
  simp

theorem freshLine_write (ks : List Kill) (line : Bytes) : freshLine (write ks) line = line := by
  rcases freshLine_cases (write ks) line with ⟨same, _⟩ | ⟨_, some, last⟩
  · exact same
  · rcases List.eq_nil_or_concat ks with rfl | ⟨front, k, rfl⟩
    · exact absurd rfl some
    · exact absurd (by simp [write]) last

theorem kills_freshLine (content : Bytes) (ks : List Kill) :
    (read (content ++ freshLine content (write ks))).kills = (read content).kills ++ ks := by
  rw [kills, (read_freshLine content (write ks)).1, List.map_append]
  exact congrArg _ (kills_write ks)

theorem line_ne_nil (k : Kill) : Utf8.encode k.line ≠ [] := by
  intro empty
  obtain ⟨inner, braces⟩ := line_braces k
  have same : k.line = [] := Utf8.encode_injective empty
  rw [braces] at same
  cases same

theorem stored_beginning {k : Kill} {bs : Bytes} (start : bs <+: write [k]) :
    (read bs).stored = if Utf8.encode k.line <:+: bs then [⟨k, .current⟩] else [] := by
  have text : write [k] = Utf8.encode k.line ++ [newline] := by simp [write]
  rw [text] at start
  rcases List.prefix_concat_iff.mp start with rfl | part
  · rw [if_pos ⟨[], [newline], rfl⟩, ← text, (read_write [k]).1, List.map_cons, List.map_nil]
  · have inside : newline ∉ bs := fun h => line_no_newline k (part.subset h)
    rw [read_single inside]
    by_cases whole : bs = Utf8.encode k.line
    · subst whole
      rw [LogLine.read_line, if_pos (List.infix_refl _)]
      rfl
    · have short : ¬ Utf8.encode k.line <:+: bs := fun h =>
        whole (part.eq_of_length_le h.length_le)
      rw [if_neg short, stored, List.filterMap_cons_none (LogLine.read_cut part whole),
        List.filterMap_nil]

/-- An addition that was cut short adds the kill if its whole line got there, and nothing else. -/
theorem stored_cut {content bs : Bytes} {k : Kill}
    (start : bs <+: freshLine content (write [k])) :
    (read (content ++ bs)).stored =
      (read content).stored ++ if Utf8.encode k.line <:+: bs then [⟨k, .current⟩] else [] := by
  rcases freshLine_cases content (write [k]) with ⟨same, rfl | ⟨before, rfl⟩⟩ | ⟨fresh, _⟩
  · rw [same] at start
    exact stored_beginning start
  · rw [same] at start
    rw [List.append_assoc, List.singleton_append, stored_append, stored_append, stored_nil,
      List.append_nil, stored_beginning start]
  · rw [fresh] at start
    cases bs with
    | nil =>
      have none : ¬ Utf8.encode k.line <:+: [] := fun h => line_ne_nil k (List.infix_nil.mp h)
      rw [if_neg none, List.append_nil, List.append_nil]
    | cons b bs =>
      obtain ⟨rfl, tail⟩ := List.cons_prefix_cons.mp start
      have later : Utf8.encode k.line <:+: newline :: bs ↔ Utf8.encode k.line <:+: bs := by
        rw [List.infix_cons_iff]
        refine or_iff_right fun front => ?_
        obtain ⟨c, cs, bytes⟩ := List.exists_cons_of_ne_nil (line_ne_nil k)
        rw [bytes] at front
        have first := (List.cons_prefix_cons.mp front).1
        exact line_no_newline k (bytes ▸ first ▸ List.mem_cons_self)
      rw [stored_append, stored_beginning tail]
      simp only [later]

end Log

end DropLedger
