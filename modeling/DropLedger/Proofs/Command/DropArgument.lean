import DropLedger.Command.DropArgument
import DropLedger.Proofs.Decimal
import DropLedger.Proofs.Kill.Range

/-! Which arguments are drops, and which drop each of them is. The first three colons part the
numbers; what stands behind the third of them is the name as it is. -/
namespace DropLedger
open Text (IntegerText readInteger_eq_ok integerText_integer)

/-- What stands behind a colon, with the colon, if there is one. -/
def behindColon : Option (List Char) → List Char
  | none => []
  | some rest => ':' :: rest

@[simp] theorem behindColon_some (rest : List Char) : behindColon (some rest) = ':' :: rest := rfl

/-- The arguments that give a name and integers of any size: texts of the integers with colons
between them and, behind one more colon, the name. The empty name may be left out with its colon. -/
def WideDrop.Argument (w : WideDrop) (cs : List Char) : Prop :=
  ∃ (id quantity price : List Char) (name : Option (List Char)),
    cs = id ++ ':' :: (quantity ++ ':' :: (price ++ behindColon name)) ∧
      (':' ∉ id ∧ ':' ∉ quantity ∧ ':' ∉ price) ∧
      (IntegerText true id w.id ∧ IntegerText false quantity w.quantity ∧
        IntegerText true price w.price) ∧
      w.name = String.ofList (name.getD [])

/-- A text is cut at its first colon, or not at all. -/
theorem cutColon_cut {part : List Char} (rest : Option (List Char)) (outside : ':' ∉ part) :
    cutColon (part ++ behindColon rest) = (part, rest) := by
  induction part with
  | nil => cases rest <;> rfl
  | cons c part ih =>
    simp only [List.mem_cons, not_or] at outside
    obtain ⟨other, later⟩ := outside
    rw [List.cons_append, cutColon, if_neg (Ne.symm other), ih later]

theorem cutColon_sound {cs part : List Char} {rest : Option (List Char)}
    (h : cutColon cs = (part, rest)) : cs = part ++ behindColon rest ∧ ':' ∉ part := by
  induction cs generalizing part with
  | nil =>
    cases h
    exact ⟨rfl, nofun⟩
  | cons c cs ih =>
    rw [cutColon] at h
    split at h
    · rename_i colon
      cases h
      exact ⟨by rw [colon]; rfl, nofun⟩
    · rename_i other
      cases h
      obtain ⟨whole, outside⟩ := ih rfl
      refine ⟨congrArg (c :: ·) whole, ?_⟩
      simp only [List.mem_cons, not_or]
      exact ⟨Ne.symm other, outside⟩

theorem Text.IntegerText.no_colon {signed : Bool} {cs : List Char} {n : Int}
    (h : IntegerText signed cs n) : ':' ∉ cs := by
  have digits : ∀ ds : Json.Digits, ':' ∉ ds.chars := fun ds member =>
    absurd (ds.digit ':' member) (by decide)
  cases h with
  | bare ds => exact digits ds
  | plus ds => simp [digits ds]
  | minus ds _ => simp [digits ds]

namespace Drop

theorem readPart_eq_ok {lo hi : Int} {fault : String → Text.IntegerFault → DropFault}
    {cs : List Char} {b : Bounded lo hi} :
    readPart lo hi fault cs = .ok b ↔ IntegerText (lo < 0) cs b.val := by
  rw [← readInteger_eq_ok]
  unfold readPart
  cases Text.readInteger lo hi cs <;> simp

/-- Three parts are there before any of them is looked at. -/
theorem ofArgument_parts {id quantity price : List Char} (name : Option (List Char))
    (first : ':' ∉ id) (second : ':' ∉ quantity) (third : ':' ∉ price) :
    ofArgument (id ++ ':' :: (quantity ++ ':' :: (price ++ behindColon name))) = (do
      let id ← readPart _ _ .badId id
      let quantity ← readPart _ _ .badQuantity quantity
      let price ← readPart _ _ .badPrice price
      return ⟨String.ofList (name.getD []), id, quantity, price⟩) := by
  have cut_first := cutColon_cut
    (some (quantity ++ behindColon (some (price ++ behindColon name)))) first
  have cut_second := cutColon_cut (some (price ++ behindColon name)) second
  have cut_third := cutColon_cut name third
  simp only [behindColon_some] at cut_first cut_second
  simp only [ofArgument, cut_first, cut_second, cut_third]

theorem parts_of_ok {cs : List Char} {d : Drop} (ok : ofArgument cs = .ok d) :
    ∃ (id quantity price : List Char) (name : Option (List Char)),
      cs = id ++ ':' :: (quantity ++ ':' :: (price ++ behindColon name)) ∧
        ':' ∉ id ∧ ':' ∉ quantity ∧ ':' ∉ price := by
  unfold ofArgument at ok
  split at ok
  · cases ok
  · rename_i id rest cut_first
    split at ok
    · cases ok
    · rename_i quantity tail cut_second
      obtain ⟨rfl, first⟩ := cutColon_sound cut_first
      obtain ⟨rfl, second⟩ := cutColon_sound cut_second
      have cut_third : cutColon tail = ((cutColon tail).1, (cutColon tail).2) := rfl
      obtain ⟨whole, third⟩ := cutColon_sound cut_third
      refine ⟨id, quantity, (cutColon tail).1, (cutColon tail).2, ?_, first, second, third⟩
      rw [← whole]
      rfl

theorem ofArgument_eq_ok {cs : List Char} {d : Drop} :
    ofArgument cs = .ok d ↔ d.wide.Argument cs := by
  constructor
  · intro ok
    obtain ⟨id, quantity, price, name, rfl, first, second, third⟩ := parts_of_ok ok
    rw [ofArgument_parts name first second third] at ok
    obtain ⟨i, id_read, ok⟩ := bind_eq_ok.mp ok
    obtain ⟨q, quantity_read, ok⟩ := bind_eq_ok.mp ok
    obtain ⟨p, price_read, ok⟩ := bind_eq_ok.mp ok
    cases ok
    exact ⟨id, quantity, price, name, rfl, ⟨first, second, third⟩,
      ⟨readPart_eq_ok.mp id_read, readPart_eq_ok.mp quantity_read, readPart_eq_ok.mp price_read⟩,
      rfl⟩
  · rintro ⟨id, quantity, price, name, rfl, ⟨first, second, third⟩,
      ⟨id_text, quantity_text, price_text⟩, named⟩
    rw [ofArgument_parts name first second third]
    refine bind_eq_ok.mpr ⟨d.id, readPart_eq_ok.mpr id_text, bind_eq_ok.mpr
      ⟨d.quantity, readPart_eq_ok.mpr quantity_text, bind_eq_ok.mpr
        ⟨d.price, readPart_eq_ok.mpr price_text, ?_⟩⟩⟩
    rw [← named]
    rfl

theorem argument_spelled (d : Drop) : d.wide.Argument d.argument := by
  have id_text : IntegerText true (Text.integer d.id.val) d.id.val :=
    integerText_integer fun _ => rfl
  have quantity_text : IntegerText false (Text.integer d.quantity.val) d.quantity.val :=
    integerText_integer fun negative => absurd negative (Int.not_lt.mpr d.quantity.lo_le)
  have price_text : IntegerText true (Text.integer d.price.val) d.price.val :=
    integerText_integer fun _ => rfl
  refine ⟨_, _, _, some d.name.toList, ?_,
    ⟨id_text.no_colon, quantity_text.no_colon, price_text.no_colon⟩,
    ⟨id_text, quantity_text, price_text⟩, String.ofList_toList.symm⟩
  simp [argument]

/-- An argument is taken just when it gives a name and integers that are all within their limits,
and then it is the drop with these. What is written of a drop gives it back. -/
theorem arguments_exact (cs : List Char) :
    (∀ d, ofArgument cs = .ok d ↔ d.wide.Argument cs) ∧
      ((∃ d, ofArgument cs = .ok d) ↔ ∃ w : WideDrop, w.Argument cs ∧ w.Fits) ∧
      ∀ d : Drop, ofArgument d.argument = .ok d := by
  refine ⟨fun d => ofArgument_eq_ok, ?_, fun d => ofArgument_eq_ok.mpr (argument_spelled d)⟩
  constructor
  · rintro ⟨d, ok⟩
    exact ⟨d.wide, ofArgument_eq_ok.mp ok, d.wide.fits_iff.mpr ⟨d, rfl⟩⟩
  · rintro ⟨w, said, fits⟩
    obtain ⟨d, rfl⟩ := w.fits_iff.mp fits
    exact ⟨d, ofArgument_eq_ok.mpr said⟩

/-- Signs and zeros in front are taken, and the name begins at the third colon. -/
example : (ofArgument "-00995:+0100:-0: Coins: gp".toList).toOption.map argument =
    some "-995:100:0: Coins: gp".toList := by decide +kernel

end Drop

end DropLedger
