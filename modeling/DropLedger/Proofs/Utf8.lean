import DropLedger.Text.Utf8
import DropLedger.Proofs.Basic

/-! UTF-8 is exact in both directions: what is encoded is read back, and only what was encoded is
read at all. A cut inside a character is never taken for a shorter text. -/
namespace DropLedger.Utf8

@[simp] theorem encode_nil : encode [] = [] := rfl

@[simp] theorem encode_cons (c : Char) (cs : List Char) :
    encode (c :: cs) = encodeChar c ++ encode cs := by
  simp [encode]

@[simp] theorem encode_append (as bs : List Char) : encode (as ++ bs) = encode as ++ encode bs := by
  simp [encode]

/-- A code point is below the surrogates, or past them and in the last plane at most. -/
theorem char_range (c : Char) : c.toNat < 0xD800 ∨ (0xDFFF < c.toNat ∧ c.toNat < 0x110000) := by
  have h := c.valid
  simpa [UInt32.isValidChar, Nat.isValidChar] using h

theorem scan_one (a : UInt8) (rest : Bytes) (small : a.toNat < 0x80) :
    scan (a :: rest) = .char (.ofNat a.toNat) :: scan rest := by
  rw [scan.eq_def]
  simp only [if_pos small]

theorem scan_two (a b : UInt8) (rest : Bytes) (low : 0xC2 ≤ a.toNat) (high : a.toNat < 0xE0)
    (tail : secondFits a b = true) :
    scan (a :: b :: rest) =
      .char (.ofNat ((a.toNat - 0xC0) * 64 + (b.toNat - 0x80))) :: scan rest := by
  have first : ¬ a.toNat < 0x80 := by omega
  have lead : ¬ (a.toNat < 0xC2 || 0xF4 < a.toNat) = true := by simp; omega
  rw [scan.eq_def]
  simp only [if_neg first, if_neg lead, tail, Bool.not_true, Bool.false_eq_true, if_false,
    if_pos high]

theorem scan_three (a b c : UInt8) (rest : Bytes) (low : 0xE0 ≤ a.toNat) (high : a.toNat < 0xF0)
    (second : secondFits a b = true) (third : isTail c = true) :
    scan (a :: b :: c :: rest) =
      .char (.ofNat ((a.toNat - 0xE0) * 4096 + (b.toNat - 0x80) * 64 + (c.toNat - 0x80)))
        :: scan rest := by
  have first : ¬ a.toNat < 0x80 := by omega
  have lead : ¬ (a.toNat < 0xC2 || 0xF4 < a.toNat) = true := by simp; omega
  have wide : ¬ a.toNat < 0xE0 := by omega
  rw [scan.eq_def]
  simp only [if_neg first, if_neg lead, second, third, Bool.not_true, Bool.false_eq_true,
    if_false, if_neg wide, if_pos high]

theorem scan_four (a b c d : UInt8) (rest : Bytes) (low : 0xF0 ≤ a.toNat) (high : a.toNat ≤ 0xF4)
    (second : secondFits a b = true) (third : isTail c = true) (fourth : isTail d = true) :
    scan (a :: b :: c :: d :: rest) =
      .char (.ofNat ((a.toNat - 0xF0) * 262144 + (b.toNat - 0x80) * 4096 +
        (c.toNat - 0x80) * 64 + (d.toNat - 0x80))) :: scan rest := by
  have first : ¬ a.toNat < 0x80 := by omega
  have lead : ¬ (a.toNat < 0xC2 || 0xF4 < a.toNat) = true := by simp; omega
  have wide : ¬ a.toNat < 0xE0 := by omega
  have wider : ¬ a.toNat < 0xF0 := by omega
  rw [scan.eq_def]
  simp only [if_neg first, if_neg lead, second, third, fourth, Bool.not_true,
    Bool.false_eq_true, if_false, if_neg wide, if_neg wider]

theorem toNat_ofNat_byte {n : Nat} (h : n < 256) : (UInt8.ofNat n).toNat = n := by
  simp; omega

theorem toNat_tail (n : Nat) : (UInt8.ofNat (0x80 + n % 64)).toNat = 0x80 + n % 64 :=
  toNat_ofNat_byte (by omega)

theorem isTail_tail (n : Nat) : isTail (.ofNat (0x80 + n % 64)) = true := by
  simp only [isTail, toNat_tail, Bool.and_eq_true, decide_eq_true_eq]
  omega

section Code

variable {n : Nat} (rest : Bytes)

theorem scan_code_two (low : 0x80 ≤ n) (high : n < 0x800) :
    scan (.ofNat (0xC0 + n / 64) :: .ofNat (0x80 + n % 64) :: rest) =
      .char (.ofNat n) :: scan rest := by
  have lead := toNat_ofNat_byte (n := 0xC0 + n / 64) (by omega)
  have second : secondFits (.ofNat (0xC0 + n / 64)) (.ofNat (0x80 + n % 64)) = true := by
    grind [secondFits, isTail_tail]
  have code : (0xC0 + n / 64 - 0xC0) * 64 + (0x80 + n % 64 - 0x80) = n := by omega
  rw [scan_two _ _ _ (by omega) (by omega) second, lead, toNat_tail, code]

/-- Of the code points with three bytes the surrogates are not read. -/
theorem scan_code_three (low : 0x800 ≤ n) (high : n < 0x10000) (valid : n < 0xD800 ∨ 0xDFFF < n) :
    scan (.ofNat (0xE0 + n / 4096) :: .ofNat (0x80 + n / 64 % 64) :: .ofNat (0x80 + n % 64) ::
      rest) = .char (.ofNat n) :: scan rest := by
  have lead := toNat_ofNat_byte (n := 0xE0 + n / 4096) (by omega)
  have next := toNat_tail (n / 64)
  have second : secondFits (.ofNat (0xE0 + n / 4096)) (.ofNat (0x80 + n / 64 % 64)) = true := by
    grind [secondFits, isTail]
  have code : (0xE0 + n / 4096 - 0xE0) * 4096 + (0x80 + n / 64 % 64 - 0x80) * 64 +
      (0x80 + n % 64 - 0x80) = n := by omega
  rw [scan_three _ _ _ _ (by omega) (by omega) second (isTail_tail _), lead, next, toNat_tail, code]

theorem scan_code_four (low : 0x10000 ≤ n) (high : n < 0x110000) :
    scan (.ofNat (0xF0 + n / 262144) :: .ofNat (0x80 + n / 4096 % 64) ::
      .ofNat (0x80 + n / 64 % 64) :: .ofNat (0x80 + n % 64) :: rest) =
        .char (.ofNat n) :: scan rest := by
  have lead := toNat_ofNat_byte (n := 0xF0 + n / 262144) (by omega)
  have next := toNat_tail (n / 4096)
  have second : secondFits (.ofNat (0xF0 + n / 262144)) (.ofNat (0x80 + n / 4096 % 64)) = true := by
    grind [secondFits, isTail]
  have code : (0xF0 + n / 262144 - 0xF0) * 262144 + (0x80 + n / 4096 % 64 - 0x80) * 4096 +
      (0x80 + n / 64 % 64 - 0x80) * 64 + (0x80 + n % 64 - 0x80) = n := by omega
  rw [scan_four _ _ _ _ _ (by omega) (by omega) second (isTail_tail _) (isTail_tail _), lead, next,
    toNat_tail, toNat_tail, code]

end Code

/-- The first thing read from an encoded text is its first character. -/
theorem scan_encodeChar (c : Char) (rest : Bytes) :
    scan (encodeChar c ++ rest) = .char c :: scan rest := by
  have range := char_range c
  have back : Char.ofNat c.toNat = c := Char.ofNat_toNat c
  simp only [encodeChar]
  split
  · have byte := toNat_ofNat_byte (n := c.toNat) (by omega)
    rw [List.singleton_append, scan_one _ _ (by omega), byte, back]
  split
  · have read := scan_code_two rest (n := c.toNat) (by omega) (by omega)
    rwa [back] at read
  split
  · have read := scan_code_three rest (n := c.toNat) (by omega) (by omega) (by omega)
    rwa [back] at read
  · have read := scan_code_four rest (n := c.toNat) (by omega) (by omega)
    rwa [back] at read

theorem scan_encode (cs : List Char) (rest : Bytes) :
    scan (encode cs ++ rest) = cs.map .char ++ scan rest := by
  induction cs with
  | nil => rfl
  | cons c cs ih => rw [encode_cons, List.append_assoc, scan_encodeChar, ih]; rfl

theorem assemble_chars (index : Nat) (cs : List Char) :
    assemble index (cs.map .char) = .ok cs := by
  induction cs generalizing index with
  | nil => rfl
  | cons c cs ih =>
    rw [List.map_cons, assemble, ih]
    rfl

theorem chars_of_assemble {index : Nat} {ps : List Piece} {cs : List Char}
    (h : assemble index ps = .ok cs) : ps = cs.map .char := by
  induction ps generalizing index cs with
  | nil =>
    cases h
    rfl
  | cons p ps ih =>
    cases p with
    | char c =>
      simp only [assemble] at h
      cases rest : assemble (index + c.utf8Size) ps with
      | error f =>
        rw [rest] at h
        cases h
      | ok ds =>
        rw [rest] at h
        cases h
        rw [ih rest, List.map_cons]
    | broken n => cases h
    | cut => cases h

theorem decode_encode (cs : List Char) : decode (encode cs) = .ok cs := by
  have h := scan_encode cs []
  rw [List.append_nil] at h
  rw [decode, h, scan, List.append_nil, assemble_chars]

theorem toString?_ofString (s : String) : toString? (ofString s) = some s := by
  simp [toString?, ofString, decode_encode]

theorem encode_injective {as bs : List Char} (h : encode as = encode bs) : as = bs := by
  have decoded := congrArg decode h
  rw [decode_encode, decode_encode] at decoded
  exact Except.ok.inj decoded

theorem toNat_ofNat_char {n : Nat} (h : n < 0xD800 ∨ (0xDFFF < n ∧ n < 0x110000)) :
    (Char.ofNat n).toNat = n := by
  have valid : n.isValidChar := by
    rcases h with h | h
    · exact .inl h
    · exact .inr h
  rw [Char.ofNat, dif_pos valid]
  rfl

theorem ofNat_eq_byte {n : Nat} {b : UInt8} (h : n = b.toNat) : UInt8.ofNat n = b := by
  rw [h, UInt8.ofNat_toNat]

theorem encodeChar_one (a : UInt8) (small : a.toNat < 0x80) :
    encodeChar (.ofNat a.toNat) = [a] := by
  have code := toNat_ofNat_char (n := a.toNat) (by omega)
  simp only [encodeChar, code, if_pos small, UInt8.ofNat_toNat]

theorem encodeChar_two (a b : UInt8) (low : 0xC2 ≤ a.toNat) (high : a.toNat < 0xE0)
    (second : secondFits a b = true) :
    encodeChar (.ofNat ((a.toNat - 0xC0) * 64 + (b.toNat - 0x80))) = [a, b] := by
  have tail : 0x80 ≤ b.toNat ∧ b.toNat ≤ 0xBF := by grind [secondFits, isTail]
  have code := toNat_ofNat_char (n := (a.toNat - 0xC0) * 64 + (b.toNat - 0x80)) (by omega)
  simp only [encodeChar, code]
  rw [if_neg (by omega), if_pos (by omega), ofNat_eq_byte (b := a) (by omega),
    ofNat_eq_byte (b := b) (by omega)]

theorem encodeChar_three (a b c : UInt8) (low : 0xE0 ≤ a.toNat) (high : a.toNat < 0xF0)
    (second : secondFits a b = true) (third : isTail c = true) :
    encodeChar (.ofNat ((a.toNat - 0xE0) * 4096 + (b.toNat - 0x80) * 64 + (c.toNat - 0x80))) =
      [a, b, c] := by
  have tail : 0x80 ≤ b.toNat ∧ b.toNat ≤ 0xBF := by grind [secondFits, isTail]
  have long : a.toNat = 0xE0 → 0xA0 ≤ b.toNat := by grind [secondFits, isTail]
  have plain : a.toNat = 0xED → b.toNat ≤ 0x9F := by grind [secondFits, isTail]
  have last : 0x80 ≤ c.toNat ∧ c.toNat ≤ 0xBF := by simpa [isTail] using third
  have code := toNat_ofNat_char
    (n := (a.toNat - 0xE0) * 4096 + (b.toNat - 0x80) * 64 + (c.toNat - 0x80)) (by omega)
  simp only [encodeChar, code]
  rw [if_neg (by omega), if_neg (by omega), if_pos (by omega), ofNat_eq_byte (b := a) (by omega),
    ofNat_eq_byte (b := b) (by omega), ofNat_eq_byte (b := c) (by omega)]

theorem encodeChar_four (a b c d : UInt8) (low : 0xF0 ≤ a.toNat) (high : a.toNat ≤ 0xF4)
    (second : secondFits a b = true) (third : isTail c = true) (fourth : isTail d = true) :
    encodeChar (.ofNat ((a.toNat - 0xF0) * 262144 + (b.toNat - 0x80) * 4096 +
      (c.toNat - 0x80) * 64 + (d.toNat - 0x80))) = [a, b, c, d] := by
  have tail : 0x80 ≤ b.toNat ∧ b.toNat ≤ 0xBF := by grind [secondFits, isTail]
  have long : a.toNat = 0xF0 → 0x90 ≤ b.toNat := by grind [secondFits, isTail]
  have plain : a.toNat = 0xF4 → b.toNat ≤ 0x8F := by grind [secondFits, isTail]
  have next : 0x80 ≤ c.toNat ∧ c.toNat ≤ 0xBF := by simpa [isTail] using third
  have last : 0x80 ≤ d.toNat ∧ d.toNat ≤ 0xBF := by simpa [isTail] using fourth
  have code := toNat_ofNat_char (n := (a.toNat - 0xF0) * 262144 + (b.toNat - 0x80) * 4096 +
    (c.toNat - 0x80) * 64 + (d.toNat - 0x80)) (by omega)
  simp only [encodeChar, code]
  rw [if_neg (by omega), if_neg (by omega), if_neg (by omega), ofNat_eq_byte (b := a) (by omega),
    ofNat_eq_byte (b := b) (by omega), ofNat_eq_byte (b := c) (by omega),
    ofNat_eq_byte (b := d) (by omega)]

theorem first_char {p : Piece} {ps : List Piece} {cs : List Char} (h : p :: ps = cs.map .char) :
    ∃ c ds, cs = c :: ds ∧ p = .char c ∧ ps = ds.map .char := by
  cases cs with
  | nil => cases h
  | cons c ds => exact ⟨c, ds, rfl, (List.cons.inj h).1, (List.cons.inj h).2⟩

/-- Bytes that are read as characters only are those characters, encoded. -/
theorem encode_of_scan {bs : Bytes} {cs : List Char} (h : scan bs = cs.map .char) :
    encode cs = bs := by
  -- The cases are those of the reader. Only four of them come to a character.
  fun_induction scan bs generalizing cs with
  | case1 =>
    cases cs with
    | nil => rfl
    | cons c cs => cases h
  | case2 a rest one ih =>
    obtain ⟨c, ds, rfl, hc, tail⟩ := first_char h
    obtain rfl := Piece.char.inj hc
    rw [encode_cons, ih tail, encodeChar_one a one, List.singleton_append]
  | case6 a one lead b rest second two ih =>
    obtain ⟨c, ds, rfl, hc, tail⟩ := first_char h
    obtain rfl := Piece.char.inj hc
    simp only [Bool.or_eq_true, decide_eq_true_eq, not_or] at lead
    rw [encode_cons, ih tail, encodeChar_two a b (by omega) two (by simpa using second)]
    rfl
  | case9 a one lead b second two c rest third three ih =>
    obtain ⟨c, ds, rfl, hc, tail⟩ := first_char h
    obtain rfl := Piece.char.inj hc
    rw [encode_cons, ih tail,
      encodeChar_three a b _ (by omega) three (by simpa using second) (by simpa using third)]
    rfl
  | case12 a one lead b second two c third three d rest fourth ih =>
    obtain ⟨c, ds, rfl, hc, tail⟩ := first_char h
    obtain rfl := Piece.char.inj hc
    simp only [Bool.or_eq_true, decide_eq_true_eq, not_or] at lead
    rw [encode_cons, ih tail, encodeChar_four a b _ d (by omega) (by omega)
      (by simpa using second) (by simpa using third) (by simpa using fourth)]
    rfl
  | _ =>
    obtain ⟨c, ds, -, hc, -⟩ := first_char h
    cases hc

theorem encode_of_decode {bs : Bytes} {cs : List Char} (h : decode bs = .ok cs) :
    encode cs = bs :=
  encode_of_scan (chars_of_assemble h)

/-- A beginning of an encoded text that can be read is a beginning of the text. -/
theorem prefix_of_decode {cs ds : List Char} {bs : Bytes} (h : decode bs = .ok ds)
    (start : bs <+: encode cs) : ds <+: cs := by
  obtain ⟨more, whole⟩ := start
  rw [← encode_of_decode h] at whole
  clear h
  induction ds generalizing cs with
  | nil => exact List.nil_prefix
  | cons d ds ih =>
    have pieces := congrArg scan whole
    rw [encode_cons, List.append_assoc, scan_encodeChar] at pieces
    cases cs with
    | nil =>
      rw [encode_nil, scan] at pieces
      cases pieces
    | cons c cs =>
      rw [encode_cons, scan_encodeChar] at pieces
      obtain rfl := Piece.char.inj (List.cons.inj pieces).1
      rw [encode_cons, encode_cons, List.append_assoc] at whole
      exact List.cons_prefix_cons.mpr ⟨rfl, ih (List.append_cancel_left whole)⟩

/-- A character begins with a byte that continues none, and goes on with bytes that do. -/
theorem encodeChar_lead (c : Char) :
    ∃ lead tails, encodeChar c = lead :: tails ∧ isTail lead = false ∧
      ∀ b ∈ tails, isTail b = true := by
  have range := char_range c
  have lead : ∀ n, n < 256 → n < 0x80 ∨ 0xC0 ≤ n → isTail (.ofNat n) = false := by
    intro n small outside
    have byte := toNat_ofNat_byte small
    simp only [isTail, byte, Bool.and_eq_false_iff, decide_eq_false_iff_not]
    omega
  simp only [encodeChar]
  split
  · exact ⟨_, [], rfl, lead _ (by omega) (by omega), nofun⟩
  split
  · refine ⟨_, _, rfl, lead _ (by omega) (by omega), ?_⟩
    exact List.forall_mem_singleton.mpr (isTail_tail _)
  split
  · refine ⟨_, _, rfl, lead _ (by omega) (by omega), ?_⟩
    exact List.forall_mem_cons.mpr ⟨isTail_tail _, List.forall_mem_singleton.mpr (isTail_tail _)⟩
  · refine ⟨_, _, rfl, lead _ (by omega) (by omega), ?_⟩
    exact List.forall_mem_cons.mpr ⟨isTail_tail _,
      List.forall_mem_cons.mpr ⟨isTail_tail _, List.forall_mem_singleton.mpr (isTail_tail _)⟩⟩

/-- No character ends in another one. -/
theorem encodeChar_suffix {c d : Char} {front : Bytes}
    (h : encodeChar c = front ++ encodeChar d) : front = [] := by
  obtain ⟨lead, tails, first, -, continues⟩ := encodeChar_lead c
  obtain ⟨inner, rest, second, begins, -⟩ := encodeChar_lead d
  rw [first, second] at h
  cases front with
  | nil => rfl
  | cons b front =>
    have member : inner ∈ tails := by
      rw [(List.cons.inj h).2]
      simp
    rw [continues inner member] at begins
    cases begins

theorem encode_last {bs : Bytes} {c : Char} {cs : List Char}
    (h : bs ++ encodeChar c = encode cs) : ∃ front, cs = front ++ [c] ∧ encode front = bs := by
  rcases List.eq_nil_or_concat cs with rfl | ⟨front, d, rfl⟩
  · obtain ⟨lead, tails, text, -, -⟩ := encodeChar_lead c
    simp [text] at h
  · have ends : bs ++ encodeChar c = encode front ++ encodeChar d := by simpa using h
    -- Of the two last characters one ends in the other, so they are the same.
    have same : bs = encode front := by
      rcases List.append_eq_append_iff.mp ends with ⟨more, whole, last⟩ | ⟨more, whole, last⟩
      · simpa [encodeChar_suffix last] using whole.symm
      · simpa [encodeChar_suffix last] using whole
    subst same
    have last : encode [c] = encode [d] := by simpa using ends
    cases encode_injective last
    exact ⟨front, List.concat_eq_append, rfl⟩

theorem encode_end {bs : Bytes} {cs after : List Char} (h : bs ++ encode after = encode cs) :
    ∃ front, cs = front ++ after ∧ encode front = bs := by
  induction after using List.reverseRecOn generalizing cs with
  | nil => exact ⟨cs, by simpa using h.symm⟩
  | append_singleton after c ih =>
    have ends : (bs ++ encode after) ++ encodeChar c = encode cs := by simpa using h
    obtain ⟨whole, rfl, before⟩ := encode_last ends
    obtain ⟨front, rfl, same⟩ := ih before.symm
    exact ⟨front, by simp, same⟩

theorem decode_eq_ok {bs : Bytes} {cs : List Char} : decode bs = .ok cs ↔ encode cs = bs :=
  ⟨encode_of_decode, fun same => same ▸ decode_encode cs⟩

/-- Text around some bytes does not make them readable, nor unreadable. -/
theorem decode_surrounded {before after cs : List Char} {bs : Bytes} :
    decode (encode before ++ bs ++ encode after) = .ok cs ↔
      ∃ inner, decode bs = .ok inner ∧ cs = before ++ inner ++ after := by
  constructor
  · intro whole
    obtain ⟨front, rfl, text⟩ := encode_end (encode_of_decode whole).symm
    obtain ⟨inner, rfl⟩ := prefix_of_decode (decode_encode before) ⟨bs, text.symm⟩
    rw [encode_append] at text
    exact ⟨inner, decode_eq_ok.mpr (List.append_cancel_left text), rfl⟩
  · rintro ⟨inner, read, rfl⟩
    rw [decode_eq_ok, encode_append, encode_append, encode_of_decode read]

theorem mem_encodeChar_ascii {n : Nat} {c : Char} (small : n < 0x80) :
    UInt8.ofNat n ∈ encodeChar c ↔ Char.ofNat n = c := by
  have code := toNat_ofNat_char (n := n) (by omega)
  have byte := toNat_ofNat_byte (n := n) (by omega)
  have high : ∀ m, 0x80 ≤ m → m < 256 → UInt8.ofNat n ≠ UInt8.ofNat m := by
    intro m hm lt h
    have same := congrArg UInt8.toNat h
    rw [byte, toNat_ofNat_byte lt] at same
    omega
  have range := char_range c
  constructor
  · intro h
    simp only [encodeChar] at h
    split at h
    · have same := congrArg UInt8.toNat (List.mem_singleton.mp h)
      rw [byte, toNat_ofNat_byte (by omega)] at same
      rw [same, Char.ofNat_toNat]
    · have tails : ∀ m, UInt8.ofNat n ≠ UInt8.ofNat (0x80 + m % 64) :=
        fun m => high _ (by omega) (by omega)
      split at h
      · simp only [List.mem_cons, List.not_mem_nil, or_false, tails,
          high (0xC0 + c.toNat / 64) (by omega) (by omega)] at h
      split at h
      · simp only [List.mem_cons, List.not_mem_nil, or_false, tails,
          high (0xE0 + c.toNat / 4096) (by omega) (by omega)] at h
      · simp only [List.mem_cons, List.not_mem_nil, or_false, tails,
          high (0xF0 + c.toNat / 262144) (by omega) (by omega)] at h
  · rintro rfl
    simp [encodeChar, code, small]

theorem mem_encode_ascii {n : Nat} {cs : List Char} (small : n < 0x80) :
    UInt8.ofNat n ∈ encode cs ↔ Char.ofNat n ∈ cs := by
  induction cs with
  | nil => simp
  | cons c cs ih => simp [mem_encodeChar_ascii small, ih]

end DropLedger.Utf8
