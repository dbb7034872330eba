import DropLedger.Proofs.Component

/-! Names that come to the same key. A key comes to itself, and so does every name that has the form
of a key. White space around a name and the case of its ASCII letters do not count, although a
letter before or after a sigma decides which small form the sigma gets. -/
namespace DropLedger
open Text

/-- Two texts that differ in the case of ASCII letters at most. -/
def SameLetters (cs ds : List Char) : Prop := cs.map Char.toLower = ds.map Char.toLower

/-- A text with white space around it, if any. -/
def Surrounded (inner whole : List Char) : Prop :=
  ∃ before after, whole = before ++ inner ++ after ∧ (∀ c ∈ before, isBlank c = true) ∧
    ∀ c ∈ after, isBlank c = true

/-- Two names that differ in white space around them and in the case of ASCII letters at most. -/
def Respelled (name other : String) : Prop :=
  ∃ cs ds, Surrounded cs name.toList ∧ Surrounded ds other.toList ∧ SameLetters cs ds

/-- The form of a key: the name of one entry, in small letters, without white space at its ends. -/
structure KeyForm (key : String) : Prop extends Component key where
  trimmed : Trimmed key.toList
  small : lower key = key

section Letters

/-- Where a capital ASCII letter cannot be told from the small one, no character can be told from
its small ASCII form. -/
theorem apply_toLower {α : Type} {f : Char → α}
    (capitals : ∀ n < 26, f (Char.ofNat (n + 65)).toLower = f (Char.ofNat (n + 65))) (c : Char) :
    f c.toLower = f c := by
  by_cases capital : 65 ≤ c.toNat ∧ c.toNat ≤ 90
  · have letter := capitals (c.toNat - 65) (by omega)
    have code : c.toNat - 65 + 65 = c.toNat := by omega
    rwa [code, Char.ofNat_toNat] at letter
  · have same : c.toLower = c := by
      unfold Char.toLower
      exact dif_neg capital
    rw [same]

theorem isBlank_toLower (c : Char) : isBlank c.toLower = isBlank c :=
  apply_toLower (f := isBlank) (by decide) c

theorem cased_toLower (c : Char) : cased.has c.toLower = cased.has c :=
  apply_toLower (f := cased.has) (by decide +kernel) c

theorem caseIgnorable_toLower (c : Char) : caseIgnorable.has c.toLower = caseIgnorable.has c :=
  apply_toLower (f := caseIgnorable.has) (by decide +kernel) c

theorem lowerChar_toLower (c : Char) : lowerChar c.toLower = lowerChar c :=
  apply_toLower (f := lowerChar) (by decide +kernel) c

theorem sigma_toLower (c : Char) : (c.toLower = 'Σ') = (c = 'Σ') :=
  apply_toLower (f := (· = 'Σ')) (by decide) c

theorem trimLeft_toLower (cs : List Char) :
    trimLeft (cs.map Char.toLower) = (trimLeft cs).map Char.toLower := by
  have blank : isBlank ∘ Char.toLower = isBlank := funext isBlank_toLower
  rw [trimLeft, List.dropWhile_map, blank, trimLeft]

theorem trimChars_toLower (cs : List Char) :
    trimChars (cs.map Char.toLower) = (trimChars cs).map Char.toLower := by
  have right : ∀ ds : List Char,
      trimRight (ds.map Char.toLower) = (trimRight ds).map Char.toLower := by
    intro ds
    change (trimLeft (ds.map Char.toLower).reverse).reverse = (trimLeft ds.reverse).reverse.map _
    rw [← List.map_reverse, trimLeft_toLower, List.map_reverse]
  rw [trimChars, trimLeft_toLower, right, trimChars]

theorem meetsCased_toLower (cs : List Char) : meetsCased (cs.map Char.toLower) = meetsCased cs := by
  have ignorable : (caseIgnorable.has ·) ∘ Char.toLower = (caseIgnorable.has ·) :=
    funext caseIgnorable_toLower
  unfold meetsCased
  rw [List.dropWhile_map, ignorable]
  cases cs.dropWhile (caseIgnorable.has ·) with
  | nil => rfl
  | cons c rest => exact cased_toLower c

/-- A character comes to the same in its place if the ASCII letters of the text are made small
before. -/
theorem lowered_toLower (before rest : List Char) (c : Char) :
    lowered (before.map Char.toLower) c.toLower (rest.map Char.toLower) =
      lowered before c rest := by
  unfold lowered
  rw [meetsCased_toLower, meetsCased_toLower, lowerChar_toLower]
  simp only [sigma_toLower]

theorem lowerFrom_toLower (before cs : List Char) :
    lowerFrom (before.map Char.toLower) (cs.map Char.toLower) = lowerFrom before cs := by
  -- What has been passed grows with each step, and a sigma looks back at it.
  induction cs generalizing before with
  | nil => rfl
  | cons c cs ih =>
    have others := ih (c :: before)
    rw [List.map_cons] at others
    rw [List.map_cons, lowerFrom_cons, lowerFrom_cons, lowered_toLower, others]

/-- The case of ASCII letters is lost in small letters, that of their neighbours included. -/
theorem lowerChars_trimmed {cs ds : List Char} (same : SameLetters cs ds) :
    lowerChars (trimChars cs) = lowerChars (trimChars ds) := by
  have small : ∀ es : List Char,
      lowerChars (trimChars (es.map Char.toLower)) = lowerChars (trimChars es) := by
    intro es
    rw [trimChars_toLower]
    exact lowerFrom_toLower [] (trimChars es)
  rw [← small cs, same, small]

end Letters

theorem Surrounded.trimmed {inner whole : List Char} (h : Surrounded inner whole) :
    trimChars whole = trimChars inner := by
  obtain ⟨before, after, rfl, blank_before, blank_after⟩ := h
  exact trimChars_surrounded inner blank_before blank_after

theorem keyOf?_respelled {name other : String} (h : Respelled name other) :
    keyOf? name = keyOf? other := by
  obtain ⟨cs, ds, inside, inside_other, same⟩ := h
  unfold keyOf?
  rw [inside.trimmed, inside_other.trimmed, lowerChars_trimmed same]

theorem keyForm_of_keyOf? {entity key : String} (h : keyOf? entity = some key) : KeyForm key := by
  have canonical := canonical_of_keyOf? h
  refine ⟨component_of_key h, canonical.trimmed, ?_⟩
  rw [lower, lowerChars, lowerFrom_of_small canonical.small, String.ofList_toList]

theorem isUnsafe_of_listed {c : Char}
    (h : c ∉ ['/', '\\', ':', '*', '?', '"', '<', '>', '|'] ∧ 0x1F < c.toNat) :
    isUnsafe c = false := by
  have printed : ¬ c < ' ' := by
    have space : 0x20 ≤ c.toNat := h.2
    exact Char.not_lt.mpr space
  simp [isUnsafe, h.1, printed]

theorem keyOf?_of_keyForm {key : String} (h : KeyForm key) : keyOf? key = some key := by
  have letters : lowerChars key.toList = key.toList := by
    rw [← String.toList_ofList (l := lowerChars key.toList)]
    exact congrArg String.toList h.small
  have safe : sanitize key.toList = key.toList :=
    sanitize_of_safe fun c member => isUnsafe_of_listed (h.safe c member)
  have named : isDots key.toList = false := by
    simpa [isDots] using h.named
  unfold keyOf?
  dsimp only
  rw [trimChars_of_trimmed h.trimmed, letters, safe, named, String.ofList_toList]
  rfl

/-- What a name comes to has the form of a key and comes to itself, and whatever has this form comes
to itself. Two names that differ in white space around them and in the case of ASCII letters at most
are both refused or come to the same key. -/
theorem keys_canonical :
    (∀ entity key : String, keyOf entity = .ok key → KeyForm key ∧ keyOf key = .ok key) ∧
      (∀ key : String, KeyForm key → keyOf key = .ok key) ∧
      ∀ name other : String, Respelled name other →
        (keyOf name = .error (.badEntity name) ∧ keyOf other = .error (.badEntity other)) ∨
          ∃ key, keyOf name = .ok key ∧ keyOf other = .ok key := by
  refine ⟨?_, ?_, ?_⟩
  · intro entity key h
    have keyed := keyOf_eq_ok.mp h
    exact ⟨keyForm_of_keyOf? keyed, keyOf_eq_ok.mpr (keyOf?_key keyed)⟩
  · intro key form
    exact keyOf_eq_ok.mpr (keyOf?_of_keyForm form)
  · intro name other respelled
    have same := keyOf?_respelled respelled
    cases keyed : keyOf? name with
    | none =>
      rw [keyed] at same
      exact .inl ⟨by rw [keyOf, keyed], by rw [keyOf, ← same]⟩
    | some key =>
      rw [keyed] at same
      exact .inr ⟨key, keyOf_eq_ok.mpr keyed, keyOf_eq_ok.mpr same.symm⟩

/-- A capital I with a dot becomes two characters, and the sigma has the form that ends a word. -/
theorem odd_names_keyed :
    Respelled "\u3000AİB/aΣ" "aİb/AΣ\n" ∧ keyOf "\u3000AİB/aΣ" = .ok "ai\u0307b_aς" ∧
      keyOf "aİb/AΣ\n" = .ok "ai\u0307b_aς" ∧ KeyForm "ai\u0307b_aς" ∧
      keyOf "ai\u0307b_aς" = .ok "ai\u0307b_aς" := by
  obtain ⟨own, fixed, shared⟩ := keys_canonical
  have respelled : Respelled "\u3000AİB/aΣ" "aİb/AΣ\n" := by
    have left : Surrounded ['A', 'İ', 'B', '/', 'a', 'Σ'] "\u3000AİB/aΣ".toList :=
      ⟨['\u3000'], [], String.toList_ofList, forall_mem_of_all (by decide), nofun⟩
    have right : Surrounded ['a', 'İ', 'b', '/', 'A', 'Σ'] "aİb/AΣ\n".toList :=
      ⟨[], ['\n'], String.toList_ofList, nofun, forall_mem_of_all (by decide)⟩
    exact ⟨_, _, left, right, by unfold SameLetters; decide⟩
  have keyed : keyOf "\u3000AİB/aΣ" = .ok "ai\u0307b_aς" := by decide +kernel
  have form := (own _ _ keyed).1
  rcases shared _ _ respelled with ⟨refused, _⟩ | ⟨key, first, second⟩
  · rw [keyed] at refused
    cases refused
  · cases keyed.symm.trans first
    exact ⟨respelled, keyed, second, form, fixed _ form⟩

end DropLedger
