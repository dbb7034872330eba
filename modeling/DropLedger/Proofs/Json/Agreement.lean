import DropLedger.Json.Decoder
import DropLedger.Proofs.Json.Skipping

/-! Decoding a text straight and decoding the value read from it. On the spelling of a value both
give the same, whatever the decoder is made of; they differ only in the fault they name. -/
namespace DropLedger.Json

/-- The kind of a value, as a fault names it. -/
def Value.found : Value → Found
  | .null => .null
  | .bool b => .bool b
  | .number n => n.found
  | .text s => .text s
  | .list _ => .list
  | .object _ => .object

/-- The signs that the spelling of a value may begin with. -/
def Value.Sign : Value → Char → Prop
  | .null, c => c = 'n'
  | .bool _, c => c = 't' ∨ c = 'f'
  | .number _, c => c = '-' ∨ c.isDigit = true
  | .text _, c => c = '"'
  | .list _, c => c = '['
  | .object _, c => c = '{'

theorem Value.Sign.of_number {v : Value} {c : Char} (sign : v.Sign c)
    (number : c = '-' ∨ c.isDigit = true) : ∃ x, v = .number x := by
  cases v with
  | number x => exact ⟨x, rfl⟩
  | bool b =>
    rcases sign with rfl | rfl <;> exact absurd number (by decide)
  | _ =>
    cases sign
    exact absurd number (by decide)

theorem Value.Sign.not_null {v : Value} {c : Char} (sign : v.Sign c) (some : v ≠ .null) :
    c ≠ 'n' := by
  rintro rfl
  cases v with
  | null => exact some rfl
  | bool b => rcases sign with wrong | wrong <;> cases wrong
  | number x => exact absurd sign (by simp [Sign])
  | text s => cases sign
  | list vs => cases sign
  | object es => cases sign

theorem mismatch_digit (expected : String) {c : Char} (rest : List Char) (digit : c.isDigit = true) :
    mismatch expected (c :: rest) =
      mismatch.kind expected (readNumber false (c :: rest)) fun p => p.1.found := by
  have sign := digit_not_sign digit
  rw [mismatch.eq_def]
  split <;> simp_all

/-- The items of a list spell these values. -/
def ItemsSpell (depth : Nat) : List Item → List Value → Prop :=
  List.Forall₂ fun i v => Spells depth (.ok v) i.text

/-- The entries of an object spell these keys and values. -/
def EntriesSpell (depth : Nat) : List Entry → List (String × Value) → Prop :=
  List.Forall₂ fun e p => e.key = p.1 ∧ Spells depth (.ok p.2) e.item.text

theorem forall₂_of_map {ε α β : Type} {f : α → Except ε β} {P : α → Prop} {as : List α}
    {bs : List β} (same : as.map f = bs.map .ok) (h : ∀ a ∈ as, P a) :
    List.Forall₂ (fun a b => f a = .ok b ∧ P a) as bs := by
  induction as generalizing bs with
  | nil =>
    cases List.map_eq_nil_iff.mp same.symm
    exact .nil
  | cons a as ih =>
    cases bs with
    | nil => cases same
    | cons b bs =>
      obtain ⟨first, others⟩ := List.cons.inj same
      obtain ⟨here, later⟩ := List.forall_mem_cons.mp h
      exact .cons ⟨first, here⟩ (ih others later)

namespace Spells

variable {depth : Nat} {v : Value} {text : List Char}

theorem sign (h : Spells depth (.ok v) text) :
    ∃ c tail, text = c :: tail ∧ isSpace c = false ∧ v.Sign c := by
  generalize same : Except.ok v = r at h
  cases h with
  | null | yes | no => cases same; exact ⟨_, _, rfl, rfl, by simp [Value.Sign]⟩
  | text | emptyList | emptyObject => cases same; exact ⟨_, _, rfl, rfl, rfl⟩
  | list | object =>
    obtain ⟨_, _, rfl⟩ := map_eq_ok.mp same.symm
    exact ⟨_, _, rfl, rfl, rfl⟩
  | number n =>
    obtain ⟨_, _, rfl⟩ := map_eq_ok.mp same.symm
    rcases n.text_cases with ⟨_, text⟩ | ⟨c, tail, digit, _, _, text⟩
    · exact ⟨'-', _, text, rfl, .inl rfl⟩
    · exact ⟨c, tail, text, (digit_not_space digit).1, .inr digit⟩

theorem null_form (h : Spells depth (.ok .null) text) : text = ['n', 'u', 'l', 'l'] := by
  generalize same : Except.ok Value.null = r at h
  cases h with
  | null => rfl
  | number | list | object =>
    obtain ⟨_, _, wrong⟩ := map_eq_ok.mp same.symm
    cases wrong
  | _ => cases same

theorem number_form {x : Number} (h : Spells depth (.ok (.number x)) text) :
    ∃ n : Numeral, text = n.text ∧ n.value = .ok x := by
  generalize same : Except.ok (Value.number x) = r at h
  cases h with
  | number n =>
    obtain ⟨_, value, number⟩ := map_eq_ok.mp same.symm
    cases number
    exact ⟨n, rfl, value⟩
  | list | object =>
    obtain ⟨_, _, wrong⟩ := map_eq_ok.mp same.symm
    cases wrong
  | _ => cases same

theorem text_form {s : String} (h : Spells depth (.ok (.text s)) text) :
    ∃ name, Literal s.toList name ∧ text = '"' :: (name ++ ['"']) := by
  generalize same : Except.ok (Value.text s) = r at h
  cases h with
  | text name =>
    cases same
    exact ⟨_, name, rfl⟩
  | number | list | object =>
    obtain ⟨_, _, wrong⟩ := map_eq_ok.mp same.symm
    cases wrong
  | _ => cases same

/-- The items of a list, with the values they spell. -/
theorem list_form {vs : List Value} (h : Spells depth (.ok (.list vs)) text) :
    (vs = [] ∧ ∃ gap : Gap, text = '[' :: (gap.chars ++ [']'])) ∨
      ∃ (inner : Nat) (first : Item) (others : List Item),
        text = '[' :: (first.written ++ others.flatMap (fun i => ',' :: i.written) ++ [']']) ∧
          ItemsSpell inner (first :: others) vs := by
  generalize same : Except.ok (Value.list vs) = r at h
  cases h with
  | emptyList gap =>
    cases same
    exact .inl ⟨rfl, gap, rfl⟩
  | @list inner first others spelled =>
    obtain ⟨_, items, list⟩ := map_eq_ok.mp same.symm
    cases list
    refine .inr ⟨inner, first, others, rfl, ?_⟩
    refine (forall₂_of_map (mapM_eq_ok.mp items) spelled).imp fun i v item => ?_
    exact item.1 ▸ item.2
  | number | object =>
    obtain ⟨_, _, wrong⟩ := map_eq_ok.mp same.symm
    cases wrong
  | _ => cases same

theorem object_form {es : List (String × Value)} (h : Spells depth (.ok (.object es)) text) :
    (es = [] ∧ ∃ gap : Gap, text = '{' :: (gap.chars ++ ['}'])) ∨
      ∃ (inner : Nat) (first : Entry) (others : List Entry),
        text = '{' :: (first.written ++ others.flatMap (fun e => ',' :: e.written) ++ ['}']) ∧
          EntriesSpell inner (first :: others) es := by
  generalize same : Except.ok (Value.object es) = r at h
  cases h with
  | emptyObject gap =>
    cases same
    exact .inl ⟨rfl, gap, rfl⟩
  | @object inner first others spelled =>
    obtain ⟨_, entries, object⟩ := map_eq_ok.mp same.symm
    cases object
    refine .inr ⟨inner, first, others, rfl, ?_⟩
    refine (forall₂_of_map (mapM_eq_ok.mp entries) spelled).imp fun e p entry => ?_
    obtain ⟨v, value, rfl⟩ := map_eq_ok.mp entry.1
    exact ⟨rfl, value ▸ entry.2⟩
  | number | list =>
    obtain ⟨_, _, wrong⟩ := map_eq_ok.mp same.symm
    cases wrong
  | _ => cases same

/-- The fault of a value of another kind than expected does not depend on what follows it. -/
theorem mismatch_eq (h : Spells depth (.ok v) text) (expected : String) {rest : List Char}
    (ends : EndsNumber rest) : mismatch expected (text ++ rest) = .wrongKind v.found expected := by
  generalize same : Except.ok v = r at h
  cases h with
  | null | yes | no | emptyList | emptyObject => cases same; rfl
  | list | object =>
    obtain ⟨_, _, rfl⟩ := map_eq_ok.mp same.symm
    rfl
  | text literal =>
    cases same
    have read := readText_literal literal rest
    rw [List.cons_append, List.append_assoc, List.singleton_append]
    change mismatch.kind expected (readText _) _ = _
    rw [read]
    rfl
  | number n =>
    obtain ⟨x, value, rfl⟩ := map_eq_ok.mp same.symm
    rcases n.text_read ends with ⟨cs, text, read⟩ | ⟨c, cs, digit, text, read⟩
    · rw [text]
      change mismatch.kind expected (readNumber true (cs ++ rest)) _ = _
      rw [read, value]
      rfl
    · rw [text, List.cons_append, mismatch_digit expected _ digit, read, value]
      rfl

end Spells

/-- What a reader makes of a text that nothing follows. -/
def outcome {α : Type} (read : Reader α) (text : List Char) : Except Fault α := (read text).map (·.1)

theorem ComesTo.outcome_eq {α : Type} {read : Reader α} {text : List Char} {r : Except Fault α}
    (h : ComesTo read text r) : outcome read text = r := by
  have alone := h.alone endsNumber_nil
  rw [List.append_nil] at alone
  rw [outcome, alone]
  cases r <;> rfl

/-- On the spelling of a value, reading straight comes to something, and to the same as decoding the
value. -/
structure Decoder.Agrees {α : Type} (d : Decoder α) : Prop where
  reads : ∀ {depth v text}, Spells depth (.ok v) text → ComesTo d.read text (outcome d.read text)
  same : ∀ {depth v text}, Spells depth (.ok v) text →
    (outcome d.read text).toOption = d.ofValue v

namespace Decoder

variable {α β : Type} {d : Decoder α}

theorem Agrees.of_comesTo (h : ∀ {depth v text}, Spells depth (.ok v) text →
    ∃ r, ComesTo d.read text r ∧ r.toOption = d.ofValue v) : d.Agrees := by
  constructor
  · intro depth v text spelled
    obtain ⟨r, reads, _⟩ := h spelled
    rwa [reads.outcome_eq]
  · intro depth v text spelled
    obtain ⟨r, reads, same⟩ := h spelled
    rwa [reads.outcome_eq]

/-- A decoder refuses what begins with the sign of another kind. -/
theorem refuses {depth : Nat} {v : Value} {text : List Char} {expected : String}
    (spelled : Spells depth (.ok v) text)
    (other : ∀ {c cs tail}, skipSpace cs = c :: tail → v.Sign c →
      d.read cs = .error (mismatch expected (c :: tail))) :
    ComesTo d.read text (.error (.wrongKind v.found expected)) := by
  intro g rest ends
  obtain ⟨c, tail, rfl, visible, sign⟩ := spelled.sign
  have fault := spelled.mismatch_eq expected ends
  rw [List.cons_append] at fault ⊢
  rw [other (g.skip_cons _ visible) sign, fault]
  rfl

theorem map_agrees (agrees : d.Agrees) (f : α → β) : (d.map f).Agrees := by
  apply Agrees.of_comesTo
  intro depth v text spelled
  refine ⟨(outcome d.read text).map f, ?_, ?_⟩
  · intro g rest ends
    change (d.read _ >>= _) = _
    rw [agrees.reads spelled g rest ends]
    cases outcome d.read text <;> rfl
  · rw [toOption_map, agrees.same spelled]
    rfl

section Kinds

variable {cs rest : List Char} {c : Char}

theorem text_read (expected : String) (start : skipSpace cs = '"' :: rest) :
    (text expected).read cs = readText rest := by
  simp only [text, start]

theorem text_other (expected : String) (start : skipSpace cs = c :: rest) (other : c ≠ '"') :
    (text expected).read cs = .error (mismatch expected (c :: rest)) := by
  simp only [text, start]
  split <;> simp_all

theorem integer_minus (lo hi : Int) (expected : String) (start : skipSpace cs = '-' :: rest) :
    (integer lo hi expected).read cs = (do
      let (n, rest) ← readNumber true rest
      return (← fit lo hi expected n, rest)) := by
  simp only [integer, start]

theorem integer_digit (lo hi : Int) (expected : String) (start : skipSpace cs = c :: rest)
    (digit : c.isDigit = true) :
    (integer lo hi expected).read cs = (do
      let (n, rest) ← readNumber false (c :: rest)
      return (← fit lo hi expected n, rest)) := by
  have sign := digit_not_sign digit
  simp only [integer, start]
  split <;> simp_all

theorem integer_other (lo hi : Int) (expected : String) (start : skipSpace cs = c :: rest)
    (other : ¬ (c = '-' ∨ c.isDigit = true)) :
    (integer lo hi expected).read cs = .error (mismatch expected (c :: rest)) := by
  simp only [integer, start]
  split <;> simp_all

theorem list_read (d : Decoder α) (start : skipSpace cs = '[' :: rest) :
    d.list.read cs = readItems readFaults d.read rest := by
  simp only [list, start]

theorem list_other (d : Decoder α) (start : skipSpace cs = c :: rest) (other : c ≠ '[') :
    d.list.read cs = .error (mismatch "a sequence" (c :: rest)) := by
  simp only [list, start]
  split <;> simp_all

theorem optional_null (d : Decoder α) (start : skipSpace cs = 'n' :: rest) :
    d.optional.read cs = (do return (none, ← readWord ['u', 'l', 'l'] rest)) := by
  simp only [optional, start]

theorem optional_other (d : Decoder α) (start : skipSpace cs = c :: rest) (other : c ≠ 'n') :
    d.optional.read cs = (do
      let (a, rest) ← d.read (c :: rest)
      return (some a, rest)) := by
  simp only [optional, start]
  split <;> simp_all

end Kinds

theorem text_agrees (expected : String) : (text expected).Agrees := by
  apply Agrees.of_comesTo
  intro depth v text spelled
  cases v with
  | text s =>
    obtain ⟨name, literal, rfl⟩ := spelled.text_form
    refine ⟨.ok s, ?_, rfl⟩
    intro g rest _
    rw [List.cons_append, text_read expected (g.skip_cons _ rfl), List.append_assoc]
    exact readText_literal literal rest
  | _ =>
    refine ⟨_, refuses spelled fun start sign => text_other expected start ?_, rfl⟩
    rintro rfl
    simp [Value.Sign] at sign

theorem integer_agrees (lo hi : Int) (expected : String) : (integer lo hi expected).Agrees := by
  apply Agrees.of_comesTo
  intro depth v text spelled
  cases v with
  | number x =>
    obtain ⟨n, rfl, value⟩ := spelled.number_form
    refine ⟨fit lo hi expected x, ?_, ?_⟩
    · intro g rest ends
      rcases n.text_read ends with ⟨cs, text, read⟩ | ⟨c, cs, digit, text, read⟩
      · rw [text, List.cons_append, integer_minus lo hi expected (g.skip_cons _ rfl), read, value]
        rfl
      · rw [text, List.cons_append,
          integer_digit lo hi expected (g.skip_cons _ (digit_not_space digit).1) digit, read, value]
        rfl
    · cases x with
      | whole n =>
        unfold fit
        change _ = Bounded.ofInt? lo hi n
        dsimp only
        cases Bounded.ofInt? lo hi n <;> rfl
      | real x => rfl
  | _ =>
    refine ⟨_, refuses spelled fun start sign => integer_other lo hi expected start ?_, rfl⟩
    intro number
    obtain ⟨x, same⟩ := sign.of_number number
    cases same

theorem items_agree (agrees : d.Agrees) {depth : Nat} {items : List Item} {vs : List Value}
    (spell : ItemsSpell depth items vs) :
    (items.mapM fun i => outcome d.read i.text).toOption = vs.mapM d.ofValue := by
  induction spell with
  | nil => rfl
  | cons item _ ih =>
    rw [List.mapM_cons, List.mapM_cons, toOption_bind, agrees.same item, ← ih]
    simp only [toOption_bind]
    rfl

theorem item_read (agrees : d.Agrees) {depth : Nat} {i : Item} {v : Value}
    (spelled : Spells depth (.ok v) i.text) :
    ItemReads d.read Item.written (fun i => outcome d.read i.text) i :=
  Spells.item_reads spelled (agrees.reads spelled)

theorem items_read (agrees : d.Agrees) {depth : Nat} {items : List Item} {vs : List Value}
    (spell : ItemsSpell depth items vs) :
    ∀ i ∈ items, ItemReads d.read Item.written (fun i => outcome d.read i.text) i := by
  induction spell with
  | nil => exact nofun
  | cons item _ ih => exact List.forall_mem_cons.mpr ⟨item_read agrees item, ih⟩

/-- Nothing but a null begins as a null does. -/
theorem optional_agrees (agrees : d.Agrees) : d.optional.Agrees := by
  apply Agrees.of_comesTo
  intro depth v text spelled
  by_cases null : v = .null
  · subst null
    obtain rfl := spelled.null_form
    refine ⟨.ok none, ?_, rfl⟩
    intro g rest _
    rw [List.cons_append, optional_null d (g.skip_cons _ rfl)]
    rfl
  · obtain ⟨c, tail, rfl, visible, sign⟩ := spelled.sign
    refine ⟨(outcome d.read (c :: tail)).map some, ?_, ?_⟩
    · intro g rest ends
      have reads := (agrees.reads spelled).alone ends
      rw [List.cons_append] at reads ⊢
      rw [optional_other d (g.skip_cons _ visible) (sign.not_null null), reads]
      cases outcome d.read (c :: tail) <;> rfl
    · rw [toOption_map, agrees.same spelled]
      cases v with
      | null => exact absurd rfl null
      | _ => rfl

theorem list_agrees (agrees : d.Agrees) : d.list.Agrees := by
  apply Agrees.of_comesTo
  intro depth v text spelled
  cases v with
  | list vs =>
    rcases spelled.list_form with ⟨rfl, gap, rfl⟩ | ⟨inner, first, others, rfl, items⟩
    · refine ⟨.ok [], ?_, rfl⟩
      intro g rest _
      rw [List.cons_append, list_read d (g.skip_cons _ rfl), List.append_assoc,
        List.singleton_append, readItems_close _ _ (gap.skip_cons _ rfl)]
      rfl
    · refine ⟨_, ?_, items_agree agrees items⟩
      intro g rest _
      rw [List.cons_append, list_read d (g.skip_cons _ rfl), List.append_assoc,
        List.singleton_append]
      exact readItems_spelled readFaults (items_read agrees items) rest
  | _ =>
    refine ⟨_, refuses spelled fun start sign => list_other d start ?_, rfl⟩
    rintro rfl
    simp [Value.Sign] at sign

end Decoder

end DropLedger.Json
