import DropLedger.Json.Writer
import DropLedger.Proofs.Basic

/-! Text literals. What is written is read back, and what has been read to the closing quote does
not depend on what stands behind it. -/
namespace DropLedger.Json

theorem readChars_quote (rest : List Char) : readChars ('"' :: rest) = .ok ([], rest) := by
  rw [readChars.eq_def]
  rfl

theorem readChars_plain {c : Char} (rest : List Char) (quote : c ≠ '"') (slash : c ≠ '\\')
    (visible : ¬ c < ' ') : readChars (c :: rest) = consChar c (readChars rest) := by
  rw [readChars.eq_def]
  split <;> grind

theorem readChars_short {c d : Char} (rest : List Char) (long : c ≠ 'u')
    (short : shortEscape? c = some d) :
    readChars ('\\' :: c :: rest) = consChar d (readChars rest) := by
  rw [readChars.eq_def]
  split <;> grind

theorem readChars_unit {a b c d : Char} {n : Nat} (rest : List Char)
    (unit : codeUnit? a b c d = some n) (lead : isLead n = false) (trail : isTrail n = false) :
    readChars ('\\' :: 'u' :: a :: b :: c :: d :: rest) =
      consChar (.ofNat n) (readChars rest) := by
  rw [readChars.eq_def]
  simp only [unit, lead, trail]
  rfl

theorem readChars_pair {a b c d e f g h : Char} {m n : Nat} (rest : List Char)
    (first : codeUnit? a b c d = some m) (lead : isLead m = true)
    (second : codeUnit? e f g h = some n) (trail : isTrail n = true) :
    readChars ('\\' :: 'u' :: a :: b :: c :: d :: '\\' :: 'u' :: e :: f :: g :: h :: rest) =
      consChar (joinUnits m n) (readChars rest) := by
  have alone : isTrail m = false := by
    simp only [isLead, isTrail, Bool.and_eq_true, decide_eq_true_eq] at lead ⊢
    simp
    omega
  rw [readChars.eq_def]
  simp only [first, lead, alone, second, trail]
  rfl

theorem consChar_eq_ok {c : Char} {r : Except Fault (List Char × List Char)}
    {text rest : List Char} (h : consChar c r = .ok (text, rest)) :
    ∃ tail, text = c :: tail ∧ r = .ok (tail, rest) := by
  cases r with
  | error f => cases h
  | ok p =>
    cases h
    exact ⟨p.1, rfl, rfl⟩

theorem hexDigit?_digitChar : ∀ n, n < 16 → hexDigit? (Nat.digitChar n) = some n := by decide

/-- A control character is escaped by its two last digits. -/
theorem codeUnit?_digits {n : Nat} (h : n < 256) :
    codeUnit? '0' '0' (Nat.digitChar (n / 16)) (Nat.digitChar (n % 16)) = some n := by
  have high := hexDigit?_digitChar (n / 16) (by omega)
  have low := hexDigit?_digitChar (n % 16) (by omega)
  have zero : hexDigit? '0' = some 0 := rfl
  simp only [codeUnit?, high, low, zero, Option.bind_eq_bind, Option.bind_some, Option.pure_def,
    Option.some.injEq]
  omega

/-- How the characters of a text may stand between quotes: as they are, by a short escape, by the
code unit, or by two code units. -/
inductive Literal : List Char → List Char → Prop where
  | nil : Literal [] []
  | plain {c : Char} {cs text : List Char} : c ≠ '"' → c ≠ '\\' → ¬ c < ' ' → Literal cs text →
      Literal (c :: cs) (c :: text)
  | short {c d : Char} {cs text : List Char} : shortEscape? c = some d → Literal cs text →
      Literal (d :: cs) ('\\' :: c :: text)
  | unit {a b c d : Char} {n : Nat} {cs text : List Char} : codeUnit? a b c d = some n →
      isLead n = false → isTrail n = false → Literal cs text →
      Literal (.ofNat n :: cs) ('\\' :: 'u' :: a :: b :: c :: d :: text)
  | pair {a b c d e f g h : Char} {m n : Nat} {cs text : List Char} : codeUnit? a b c d = some m →
      isLead m = true → codeUnit? e f g h = some n → isTrail n = true → Literal cs text →
      Literal (joinUnits m n :: cs)
        ('\\' :: 'u' :: a :: b :: c :: d :: '\\' :: 'u' :: e :: f :: g :: h :: text)

theorem readChars_literal {cs text : List Char} (h : Literal cs text) (rest : List Char) :
    readChars (text ++ '"' :: rest) = .ok (cs, rest) := by
  induction h with
  | nil => exact readChars_quote rest
  | plain quote slash visible _ ih =>
    rw [List.cons_append, readChars_plain _ quote slash visible, ih]
    rfl
  | @short c _ _ _ escape _ ih =>
    have long : c ≠ 'u' := by
      rintro rfl
      cases escape
    simp only [List.cons_append]
    rw [readChars_short _ long escape, ih]
    rfl
  | unit unit lead trail _ ih =>
    simp only [List.cons_append]
    rw [readChars_unit _ unit lead trail, ih]
    rfl
  | pair first lead second trail _ ih =>
    simp only [List.cons_append]
    rw [readChars_pair _ first lead second trail, ih]
    rfl

theorem readText_literal {s : String} {text : List Char} (h : Literal s.toList text)
    (rest : List Char) : readText (text ++ '"' :: rest) = .ok (s, rest) := by
  rw [readText, readChars_literal h]
  simp [Except.map]

theorem literal_escapeChar (c : Char) {cs text : List Char} (h : Literal cs text) :
    Literal (c :: cs) (escapeChar c ++ text) := by
  unfold escapeChar
  split
  · subst c; exact .short rfl h
  split
  · subst c; exact .short rfl h
  split
  · subst c; exact .short rfl h
  split
  · subst c; exact .short rfl h
  split
  · subst c; exact .short rfl h
  split
  · subst c; exact .short rfl h
  split
  · subst c; exact .short rfl h
  split
  · rename_i control
    have small : c.toNat < 32 := control
    have unit := Literal.unit (codeUnit?_digits (n := c.toNat) (by omega))
      (by simp [isLead]; omega) (by simp [isTrail]; omega) h
    rw [Char.ofNat_toNat] at unit
    exact unit
  · rename_i quote slash _ _ _ _ _ visible
    exact .plain quote slash visible h

theorem literal_escaped (cs : List Char) : Literal cs (cs.flatMap escapeChar) := by
  induction cs with
  | nil => exact .nil
  | cons c cs ih => exact literal_escapeChar c ih

theorem escapeChar_visible {c d : Char} (h : d ∈ escapeChar c) : ¬ d < ' ' := by
  have digits : ∀ n, n < 16 → ¬ Nat.digitChar n < ' ' := by decide
  unfold escapeChar at h
  split at h
  · exact forall_mem_of_all (p := (¬ · < ' ')) (by decide) d h
  split at h
  · exact forall_mem_of_all (p := (¬ · < ' ')) (by decide) d h
  split at h
  · exact forall_mem_of_all (p := (¬ · < ' ')) (by decide) d h
  split at h
  · exact forall_mem_of_all (p := (¬ · < ' ')) (by decide) d h
  split at h
  · exact forall_mem_of_all (p := (¬ · < ' ')) (by decide) d h
  split at h
  · exact forall_mem_of_all (p := (¬ · < ' ')) (by decide) d h
  split at h
  · exact forall_mem_of_all (p := (¬ · < ' ')) (by decide) d h
  split at h
  · rename_i control
    have small : c.toNat < 32 := control
    simp only [List.mem_cons, List.not_mem_nil, or_false] at h
    rcases h with rfl | rfl | rfl | rfl | rfl | rfl
    · decide
    · decide
    · decide
    · decide
    · exact digits _ (by omega)
    · exact digits _ (by omega)
  · rename_i visible
    rw [List.mem_singleton.mp h]
    exact visible

/-- What was read up to the closing quote is a literal. -/
theorem literal_of_readChars {cs text rest : List Char} (h : readChars cs = .ok (text, rest)) :
    ∃ spelled, Literal text spelled ∧ cs = spelled ++ '"' :: rest := by
  -- The cases are those of the reader. Five of them do not end in a fault.
  fun_induction readChars cs generalizing text rest with
  | case2 left =>
    cases h
    exact ⟨[], .nil, rfl⟩
  | case6 a b c d left n unit trail lead ih =>
    obtain ⟨tail, rfl, inner⟩ := consChar_eq_ok h
    obtain ⟨spelled, literal, rfl⟩ := ih inner
    exact ⟨_, .unit unit (by simpa using lead) (by simpa using trail) literal, rfl⟩
  | case10 a b c d m first alone lead e f g i left n second trail ih =>
    obtain ⟨tail, rfl, inner⟩ := consChar_eq_ok h
    obtain ⟨spelled, literal, rfl⟩ := ih inner
    exact ⟨_, .pair first (by simpa using lead) second trail literal, rfl⟩
  | case15 c left _ long d short ih =>
    obtain ⟨tail, rfl, inner⟩ := consChar_eq_ok h
    obtain ⟨spelled, literal, rfl⟩ := ih inner
    exact ⟨_, .short short literal, rfl⟩
  | case18 c left quote lone _ _ slash visible ih =>
    obtain ⟨tail, rfl, inner⟩ := consChar_eq_ok h
    obtain ⟨spelled, literal, rfl⟩ := ih inner
    have plain : c ≠ '\\' := by
      intro same
      cases spelled with
      | nil => exact slash _ _ same rfl
      | cons d left => exact slash d _ same rfl
    exact ⟨_, .plain quote plain visible literal, rfl⟩
  | _ => cases h

theorem literal_of_readText {cs rest : List Char} {s : String} (h : readText cs = .ok (s, rest)) :
    ∃ spelled, Literal s.toList spelled ∧ cs = spelled ++ '"' :: rest := by
  unfold readText at h
  cases chars : readChars cs with
  | error f =>
    rw [chars] at h
    cases h
  | ok p =>
    rw [chars] at h
    cases h
    rw [String.toList_ofList]
    exact literal_of_readChars chars

end DropLedger.Json
