import DropLedger.Json.Sequence
import DropLedger.Proofs.Basic

/-! The comma-separated parts of lists and objects, one step at a time. Where every part is read as
far as the sign that follows it, the whole list or object is read. -/
namespace DropLedger.Json

variable {α κ σ : Type}

theorem readWord_front {word cs rest : List Char} (h : readWord word cs = .ok rest) :
    cs = word ++ rest := by
  induction word generalizing cs with
  | nil =>
    cases h
    rfl
  | cons w ws ih =>
    cases cs with
    | nil => cases h
    | cons c cs =>
      rw [readWord] at h
      split at h
      · rename_i same
        rw [same, ih h, List.cons_append]
      · cases h

theorem afterListComma_next (faults : CommaFaults) (next : Reader α) {cs tail : List Char}
    {c : Char} (start : skipSpace cs = c :: tail) (item : c ≠ ']') :
    afterListComma faults next cs = next (c :: tail) := by
  unfold afterListComma
  rw [start]
  split <;> grind

theorem readItems_first (faults : CommaFaults) (item : Reader α) {cs tail : List Char} {c : Char}
    (start : skipSpace cs = c :: tail) (some : c ≠ ']') :
    readItems faults item cs = (do
      let (a, rest) ← item (c :: tail)
      let (as, rest) ← moreItems faults item (c :: tail) rest
      return (a :: as, rest)) := by
  unfold readItems
  rw [start]
  split <;> grind

theorem readItems_close (faults : CommaFaults) (item : Reader α) {cs rest : List Char}
    (close : skipSpace cs = ']' :: rest) : readItems faults item cs = .ok ([], rest) := by
  rw [readItems, close]
  rfl

theorem moreItems_close (faults : CommaFaults) (item : Reader α) (b : Char) (bound : List Char)
    {cs rest : List Char} (close : skipSpace cs = ']' :: rest) :
    moreItems faults item (b :: bound) cs = .ok ([], rest) := by
  rw [moreItems, close]
  rfl

theorem moreItems_comma (faults : CommaFaults) (item : Reader α) (b : Char) (bound : List Char)
    {cs rest : List Char} (comma : skipSpace cs = ',' :: rest) :
    moreItems faults item (b :: bound) cs = (do
      let (a, rest) ← afterListComma faults item rest
      let (as, rest) ← moreItems faults item bound rest
      return (a :: as, rest)) := by
  rw [moreItems, comma]
  rfl

theorem moreEntries_close (faults : CommaFaults) (key : Reader κ) (entry : σ → κ → Reader σ)
    (b : Char) (bound : List Char) (s : σ) {cs rest : List Char}
    (close : skipSpace cs = '}' :: rest) :
    moreEntries faults key entry (b :: bound) s cs = .ok (s, rest) := by
  rw [moreEntries, close]
  rfl

theorem moreEntries_key (faults : CommaFaults) (key : Reader κ) (entry : σ → κ → Reader σ)
    (b : Char) (bound : List Char) (s : σ) {cs tail rest : List Char}
    (comma : skipSpace cs = ',' :: tail) (quote : skipSpace tail = '"' :: rest) :
    moreEntries faults key entry (b :: bound) s cs = (do
      let (k, rest) ← key rest
      let (s, rest) ← entry s k rest
      moreEntries faults key entry bound s rest) := by
  rw [moreEntries, comma]
  simp only [quote]

theorem readEntries_close (faults : CommaFaults) (key : Reader κ) (entry : σ → κ → Reader σ) (s : σ)
    {cs rest : List Char} (close : skipSpace cs = '}' :: rest) :
    readEntries faults key entry s cs = .ok (s, rest) := by
  rw [readEntries, close]
  rfl

theorem readEntries_key (faults : CommaFaults) (key : Reader κ) (entry : σ → κ → Reader σ) (s : σ)
    {cs rest : List Char} (quote : skipSpace cs = '"' :: rest) :
    readEntries faults key entry s cs = (do
      let (k, rest) ← key rest
      let (s, rest) ← entry s k rest
      moreEntries faults key entry cs s rest) := by
  rw [readEntries, quote]
  rfl

theorem skipSpace_cons {c : Char} {cs : List Char} (visible : isSpace c = false) :
    skipSpace (c :: cs) = c :: cs := by
  simp [skipSpace, visible]

theorem length_le_flatMap (write : α → List Char) (as : List α) :
    as.length ≤ (as.flatMap fun a => ',' :: write a).length := by
  induction as with
  | nil => simp
  | cons a as ih =>
    simp only [List.flatMap_cons, List.cons_append, List.length_cons, List.length_append]
    omega

theorem next_sign (write : α → List Char) (as : List α) (close : Char) (rest : List Char) :
    ∃ c tail, as.flatMap (fun a => ',' :: write a) ++ close :: rest = c :: tail ∧
      (c = ',' ∨ c = close) := by
  cases as with
  | nil => exact ⟨close, rest, rfl, .inr rfl⟩
  | cons a as => exact ⟨',', _, rfl, .inl rfl⟩

theorem sign_not_space {c close : Char} (sign : c = ',' ∨ c = close)
    (visible : isSpace close = false) : isSpace c = false := by
  rcases sign with rfl | rfl
  · rfl
  · exact visible

theorem skipSpace_sign (write : α → List Char) (as : List α) {close : Char} (rest : List Char)
    (visible : isSpace close = false) :
    skipSpace (as.flatMap (fun a => ',' :: write a) ++ close :: rest) =
      as.flatMap (fun a => ',' :: write a) ++ close :: rest := by
  obtain ⟨c, tail, next, sign⟩ := next_sign write as close rest
  rw [next, skipSpace_cons (sign_not_space sign visible)]

/-- As many characters are left, from a first part on, as there are further parts. -/
theorem enough_left {write : α → List Char} (as : List α) {close : Char}
    {front rest left : List Char} (visible : isSpace close = false)
    (start : skipSpace (front ++ (as.flatMap (fun a => ',' :: write a) ++ close :: rest)) = left) :
    as.length < left.length := by
  have stays := skipSpace_sign write as rest visible
  have whole : as.length < (as.flatMap (fun a => ',' :: write a) ++ close :: rest).length := by
    have := length_le_flatMap write as
    simp only [List.length_append, List.length_cons]
    omega
  refine whole.trans_le ?_
  rw [← start]
  unfold skipSpace at stays ⊢
  rw [List.dropWhile_append, stays]
  split <;> simp

section Items

variable {β : Type} {item : Reader α} {write : β → List Char} {result : β → Except Fault α}

/-- A part of a list that is read as far as the sign that follows it, with white space around. -/
def ItemReads (item : Reader α) (write : β → List Char) (result : β → Except Fault α) (b : β) :
    Prop :=
  ∀ c tail, c = ',' ∨ c = ']' → ∃ d ds after, skipSpace (write b ++ c :: tail) = d :: ds ∧ d ≠ ']' ∧
    skipSpace after = c :: tail ∧ item (d :: ds) = (result b).map (·, after)

theorem moreItems_spelled (faults : CommaFaults) {bs : List β} {bound cs rest : List Char}
    (enough : bs.length < bound.length) (reads : ∀ b ∈ bs, ItemReads item write result b)
    (text : skipSpace cs = bs.flatMap (fun b => ',' :: write b) ++ ']' :: rest) :
    moreItems faults item bound cs = (bs.mapM result).map (·, rest) := by
  induction bs generalizing bound cs with
  | nil =>
    cases bound with
    | nil => simp at enough
    | cons _ bound => exact moreItems_close faults item _ bound text
  | cons b bs ih =>
    cases bound with
    | nil => simp at enough
    | cons _ bound =>
      obtain ⟨sign, tail, next, which⟩ := next_sign write bs ']' rest
      obtain ⟨d, ds, after, start, begins, left, read⟩ := reads b List.mem_cons_self sign tail which
      have others := ih (Nat.lt_of_succ_lt_succ enough)
        (fun x h => reads x (List.mem_cons_of_mem b h)) (left.trans next.symm)
      rw [List.flatMap_cons, List.append_assoc, next, List.cons_append] at text
      rw [moreItems_comma faults item _ bound text, afterListComma_next faults item start begins,
        read, List.mapM_cons]
      cases result b with
      | error fault => rfl
      | ok a =>
        change (moreItems faults item bound after >>= _) = _
        rw [others]
        cases bs.mapM result <;> rfl

theorem readItems_spelled (faults : CommaFaults) {b : β} {bs : List β}
    (reads : ∀ x ∈ b :: bs, ItemReads item write result x) (rest : List Char) :
    readItems faults item (write b ++ bs.flatMap (fun x => ',' :: write x) ++ ']' :: rest) =
      ((b :: bs).mapM result).map (·, rest) := by
  obtain ⟨sign, tail, next, which⟩ := next_sign write bs ']' rest
  obtain ⟨d, ds, after, start, begins, left, read⟩ := reads b List.mem_cons_self sign tail which
  have enough : bs.length < (d :: ds).length := enough_left bs rfl (by rw [next, start])
  rw [List.append_assoc, next, readItems_first faults item start begins, read, List.mapM_cons]
  cases result b with
  | error fault => rfl
  | ok a =>
    change (moreItems faults item (d :: ds) after >>= _) = _
    rw [moreItems_spelled faults enough (fun x h => reads x (List.mem_cons_of_mem b h))
      (left.trans next.symm)]
    cases bs.mapM result <;> rfl

end Items

section Entries

variable {β : Type} {key : Reader κ} {entry : σ → κ → Reader σ} {write : β → List Char}
  {step : σ → β → Except Fault σ}

/-- A part of an object that is read as far as the sign that follows it, with white space around. It
begins with the opening quote of its key. -/
def EntryReads (key : Reader κ) (entry : σ → κ → Reader σ) (write : β → List Char)
    (step : σ → β → Except Fault σ) (b : β) : Prop :=
  ∀ s c tail, c = ',' ∨ c = '}' → ∃ left k value after,
    skipSpace (write b ++ c :: tail) = '"' :: left ∧ key left = .ok (k, value) ∧
      skipSpace after = c :: tail ∧ entry s k value = (step s b).map (·, after)

theorem moreEntries_spelled (faults : CommaFaults) {bs : List β} {bound cs rest : List Char}
    (enough : bs.length < bound.length) (reads : ∀ b ∈ bs, EntryReads key entry write step b) (s : σ)
    (text : skipSpace cs = bs.flatMap (fun b => ',' :: write b) ++ '}' :: rest) :
    moreEntries faults key entry bound s cs = (bs.foldlM step s).map (·, rest) := by
  induction bs generalizing bound cs s with
  | nil =>
    cases bound with
    | nil => simp at enough
    | cons _ bound => exact moreEntries_close faults key entry _ bound s text
  | cons b bs ih =>
    cases bound with
    | nil => simp at enough
    | cons _ bound =>
      obtain ⟨sign, tail, next, which⟩ := next_sign write bs '}' rest
      obtain ⟨left, k, value, after, quote, named, stop, read⟩ :=
        reads b List.mem_cons_self s sign tail which
      rw [List.flatMap_cons, List.append_assoc, next, List.cons_append] at text
      rw [moreEntries_key faults key entry _ bound s text quote, named, List.foldlM_cons]
      change (entry s k value >>= _) = _
      rw [read]
      cases step s b with
      | error fault => rfl
      | ok t =>
        exact ih (Nat.lt_of_succ_lt_succ enough) (fun x h => reads x (List.mem_cons_of_mem b h)) t
          (stop.trans next.symm)

theorem readEntries_spelled (faults : CommaFaults) {b : β} {bs : List β}
    (reads : ∀ x ∈ b :: bs, EntryReads key entry write step x) (s : σ) (rest : List Char) :
    readEntries faults key entry s
        (write b ++ bs.flatMap (fun x => ',' :: write x) ++ '}' :: rest) =
      ((b :: bs).foldlM step s).map (·, rest) := by
  obtain ⟨sign, tail, next, which⟩ := next_sign write bs '}' rest
  obtain ⟨left, k, value, after, quote, named, stop, read⟩ :=
    reads b List.mem_cons_self s sign tail which
  have enough : bs.length < (write b ++ sign :: tail).length := by
    have more := length_le_flatMap write bs
    have whole := congrArg List.length next
    simp only [List.length_append, List.length_cons] at whole ⊢
    omega
  rw [List.append_assoc, next, readEntries_key faults key entry s quote, named, List.foldlM_cons]
  change (entry s k value >>= _) = _
  rw [read]
  cases step s b with
  | error fault => rfl
  | ok t =>
    exact moreEntries_spelled faults enough (fun x h => reads x (List.mem_cons_of_mem b h)) t
      (stop.trans next.symm)

end Entries

end DropLedger.Json
