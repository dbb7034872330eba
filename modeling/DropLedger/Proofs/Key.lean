import DropLedger.Disk.Path
import DropLedger.Key
import DropLedger.Proofs.Basic
import DropLedger.Proofs.Lower
import DropLedger.Proofs.Utf8

/-! Keys and file names. A key is its own key, so what is listed leads back to the file that it was
listed for. The files of different keys have different names, and none of them is a spare file. -/
namespace DropLedger
open Text

theorem sanitize_safe {cs : List Char} {c : Char} (h : c ∈ sanitize cs) : isUnsafe c = false := by
  obtain ⟨d, _, rfl⟩ := List.mem_map.mp h
  split
  · decide
  · rename_i safe
    simpa using safe

theorem sanitize_of_safe {cs : List Char} (h : ∀ c ∈ cs, isUnsafe c = false) :
    sanitize cs = cs := by
  refine (List.map_congr_left fun c hc => ?_).trans (List.map_id cs)
  rw [h c hc]
  rfl

/-- Texts that name an entry of a directory: safe characters, and not only dots. -/
def SafeName (cs : List Char) : Prop := (∀ c ∈ cs, isUnsafe c = false) ∧ isDots cs = false

/-- Texts that are their own key. -/
structure Canonical (cs : List Char) : Prop where
  trimmed : Trimmed cs
  small : ∀ c ∈ cs, Small c
  safe : SafeName cs

theorem sanitize_trimmed {cs : List Char} (h : Trimmed cs) : Trimmed (sanitize cs) := by
  have kept : ∀ c, isBlank c = false → isBlank (if isUnsafe c then '_' else c) = false := by
    intro c hc
    split
    · decide
    · exact hc
  constructor
  · intro d hd
    rw [sanitize, List.head?_map] at hd
    obtain ⟨c, hc, rfl⟩ := Option.map_eq_some_iff.mp hd
    exact kept c (h.1 c hc)
  · intro d hd
    rw [sanitize, List.getLast?_map] at hd
    obtain ⟨c, hc, rfl⟩ := Option.map_eq_some_iff.mp hd
    exact kept c (h.2 c hc)

theorem sanitize_small {cs : List Char} (h : ∀ c ∈ cs, Small c) : ∀ c ∈ sanitize cs, Small c := by
  intro d hd
  obtain ⟨c, hc, rfl⟩ := List.mem_map.mp hd
  split
  · exact ⟨by decide, by decide⟩
  · exact h c hc

theorem canonical_of_keyOf? {entity key : String} (h : keyOf? entity = some key) :
    Canonical key.toList := by
  unfold keyOf? at h
  dsimp only at h
  split at h
  · cases h
  · rename_i named
    cases h
    rw [String.toList_ofList]
    exact ⟨sanitize_trimmed (lowerFrom_trimmed (trimChars_trimmed _)),
      sanitize_small fun _ hc => lowerFrom_small hc,
      fun _ hc => sanitize_safe hc, by simpa using named⟩

theorem keyOf?_of_canonical {key : String} (h : Canonical key.toList) : keyOf? key = some key := by
  have same : sanitize (lowerChars (trimChars key.toList)) = key.toList := by
    rw [trimChars_of_trimmed h.trimmed, lowerChars, lowerFrom_of_small h.small,
      sanitize_of_safe h.safe.1]
  unfold keyOf?
  dsimp only
  rw [same, h.safe.2, String.ofList_toList]
  rfl

theorem keyOf?_trim (entity : String) : keyOf? (trim entity) = keyOf? entity := by
  unfold keyOf?
  rw [trim_toList, trimChars_of_trimmed (trimChars_trimmed _)]

theorem keyOf?_key {entity key : String} (h : keyOf? entity = some key) : keyOf? key = some key :=
  keyOf?_of_canonical (canonical_of_keyOf? h)

/-- Names that a path can lead to without leaving the directory it is in. -/
structure PlainName (name : Bytes) : Prop where
  some : name ≠ []
  slash : slash ∉ name
  zero : 0 ∉ name
  here : name ≠ here
  above : name ≠ above

theorem plain_of_safe {cs : List Char} (h : SafeName cs) : PlainName (Utf8.encode cs) := by
  have safe : ∀ n, n < 0x80 → isUnsafe (Char.ofNat n) = true → UInt8.ofNat n ∉ Utf8.encode cs := by
    intro n small bad inside
    have member := (Utf8.mem_encode_ascii small).mp inside
    rw [h.1 _ member] at bad
    cases bad
  have dots : ∀ ds, isDots ds = true → Utf8.encode cs ≠ Utf8.encode ds := by
    intro ds hd same
    have named := h.2
    rw [Utf8.encode_injective same, hd] at named
    cases named
  exact ⟨dots [] rfl, safe 47 (by decide) (by decide), safe 0 (by decide) (by decide),
    dots ['.'] rfl, dots ['.', '.'] rfl⟩

theorem logName_eq (key : String) :
    logName key = Utf8.encode (key.toList ++ ['.', 'l', 'o', 'g']) := by
  rw [Utf8.encode_append]
  rfl

theorem fileStem?_of_ending {stem ending : Bytes} (some : stem ≠ []) (given : ending ≠ [])
    (plain : dot ∉ ending) : fileStem? (stem ++ dot :: ending) = .some stem := by
  have long : 3 ≤ (stem ++ dot :: ending).length := by
    have front := List.length_pos_of_ne_nil some
    have back := List.length_pos_of_ne_nil given
    rw [List.length_append, List.length_cons]
    omega
  have leads : ¬((stem ++ dot :: ending).isEmpty || stem ++ dot :: ending = here ||
      stem ++ dot :: ending = above) = true := by
    simp only [Bool.or_eq_true, List.isEmpty_iff, decide_eq_true_eq]
    rintro ((same | same) | same) <;> rw [same] at long <;> exact absurd long (by decide)
  have passed : ∀ b ∈ ending.reverse, decide (b ≠ dot) = true := by
    intro b member
    refine decide_eq_true fun same => plain ?_
    exact same ▸ List.mem_reverse.mp member
  have turned : (stem ++ dot :: ending).reverse.dropWhile (· ≠ dot) = dot :: stem.reverse := by
    rw [List.reverse_append, List.reverse_cons, List.append_assoc,
      List.dropWhile_append_of_pos passed]
    rfl
  obtain ⟨b, front, back⟩ := List.exists_cons_of_ne_nil (List.reverse_ne_nil_iff.mpr some)
  unfold fileStem?
  rw [if_neg leads, turned, back]
  dsimp only
  rw [← back, List.reverse_reverse]

theorem Canonical.named {key : String} (h : Canonical key.toList) : key ≠ "" := by
  rintro rfl
  cases h.safe.2

theorem spareName_eq {key : String} (named : key ≠ "") :
    spareName key = logName key ++ Utf8.ofString ".tmp" := by
  have some : Utf8.ofString key ≠ [] :=
    fun empty => named (String.toList_inj.mp (Utf8.encode_injective empty))
  have stem : fileStem? (logName key) = .some (Utf8.ofString key) :=
    fileStem?_of_ending some (by decide) (by decide)
  rw [spareName, withEnding, stem, logName, List.append_assoc]
  rfl

theorem spareName_encode {key : String} (named : key ≠ "") :
    spareName key = Utf8.encode (key.toList ++ ['.', 'l', 'o', 'g', '.', 't', 'm', 'p']) := by
  rw [spareName_eq named, logName_eq, Utf8.ofString, ← Utf8.encode_append, List.append_assoc]
  rfl

theorem safe_append {cs ds : List Char} (h : ∀ c ∈ cs, isUnsafe c = false) (hd : SafeName ds) :
    SafeName (cs ++ ds) := by
  refine ⟨List.forall_mem_append.mpr ⟨h, hd.1⟩, ?_⟩
  rw [isDots, List.all_append, show ds.all (· == '.') = false from hd.2, Bool.and_false]

theorem logName_plain {key : String} (h : Canonical key.toList) : PlainName (logName key) := by
  rw [logName_eq]
  exact plain_of_safe (safe_append h.safe.1 ⟨forall_mem_of_all (by decide), by decide⟩)

theorem spareName_plain {key : String} (h : Canonical key.toList) : PlainName (spareName key) := by
  rw [spareName_encode h.named]
  exact plain_of_safe (safe_append h.safe.1 ⟨forall_mem_of_all (by decide), by decide⟩)

theorem logName_injective {j k : String} (h : logName j = logName k) : j = k := by
  rw [logName_eq, logName_eq] at h
  exact String.toList_inj.mp (List.append_cancel_right (Utf8.encode_injective h))

theorem logName_last (key : String) : (logName key).getLast? = some 0x67 := by
  have ending : (Utf8.ofString ".log").getLast? = some 0x67 := by decide
  rw [logName, List.getLast?_append, ending]
  rfl

theorem spareName_last (key : String) : (spareName key).getLast? = some 0x70 := by
  by_cases named : key = ""
  · subst named
    decide
  · have ending : (Utf8.ofString ".tmp").getLast? = some 0x70 := by decide
    rw [spareName_eq named, List.getLast?_append, ending]
    rfl

theorem logName_ne_spareName (j k : String) : logName j ≠ spareName k := by
  intro same
  have last := congrArg List.getLast? same
  rw [logName_last, spareName_last] at last
  cases last

/-- No log has a name that ends as those of spare files do. -/
theorem logName_no_spare (key : String) : ¬Utf8.ofString ".log.tmp" <:+ logName key := by
  rintro ⟨front, whole⟩
  have ending : (Utf8.ofString ".log.tmp").getLast? = some 0x70 := by decide
  have last := congrArg List.getLast? whole
  rw [List.getLast?_append, ending, logName_last] at last
  cases last

theorem logName_ofString (key : String) : logName key = Utf8.ofString (key ++ ".log") := by
  rw [logName_eq, Utf8.ofString, String.toList_append]
  rfl

theorem stem?_eq_some {name stem : String} (h : stem? name = some stem) :
    name = stem ++ ".log" := by
  unfold stem? at h
  split at h
  · rename_i rest turned
    split at h
    · cases h
    · cases h
      have whole := congrArg List.reverse turned
      rw [List.reverse_reverse] at whole
      rw [← String.toList_inj, whole]
      simp
  · cases h

theorem stem?_key {key : String} (h : Canonical key.toList) : stem? (key ++ ".log") = some key := by
  have newline : '\n' ∉ key.toList := fun inside => by
    have bad := h.safe.1 _ inside
    revert bad
    decide
  have text : (key ++ ".log").toList.reverse = 'g' :: 'o' :: 'l' :: '.' :: key.toList.reverse := by
    simp
  unfold stem?
  rw [text]
  simp [h.named, newline]

end DropLedger
