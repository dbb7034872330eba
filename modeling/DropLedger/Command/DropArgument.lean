import DropLedger.Kill
import DropLedger.Text.Decimal
import DropLedger.Text.Quoted

/-! A drop on the command line: `id:quantity:price:name`. The name may hold colons and may be left
out with its colon. -/
namespace DropLedger

inductive DropFault where
  | tooFewParts
  | badId (part : String) (fault : Text.IntegerFault)
  | badQuantity (part : String) (fault : Text.IntegerFault)
  | badPrice (part : String) (fault : Text.IntegerFault)
deriving DecidableEq, Repr

def DropFault.message : DropFault → String
  | .tooFewParts => "expected id:quantity:price:name"
  | .badId part fault => "bad item id " ++ Text.quoted part ++ ": " ++ fault.message
  | .badQuantity part fault => "bad quantity " ++ Text.quoted part ++ ": " ++ fault.message
  | .badPrice part fault => "bad price " ++ Text.quoted part ++ ": " ++ fault.message

def cutColon : List Char → List Char × Option (List Char)
  | [] => ([], none)
  | c :: cs =>
    if c = ':' then ([], some cs)
    else let (part, rest) := cutColon cs; (c :: part, rest)

def Drop.readPart (lo hi : Int) (fault : String → Text.IntegerFault → DropFault) (cs : List Char) :
    Except DropFault (Bounded lo hi) :=
  match Text.readInteger lo hi cs with
  | .ok b => .ok b
  | .error e => .error (fault (String.ofList cs) e)

/-- Reads a drop. That parts are missing is found before the numbers are looked at. -/
def Drop.ofArgument (cs : List Char) : Except DropFault Drop :=
  match cutColon cs with
  | (_, none) => .error .tooFewParts
  | (id, some rest) =>
    match cutColon rest with
    | (_, none) => .error .tooFewParts
    | (quantity, some rest) => do
      let (price, name) := cutColon rest
      let id ← readPart _ _ .badId id
      let quantity ← readPart _ _ .badQuantity quantity
      let price ← readPart _ _ .badPrice price
      return ⟨String.ofList (name.getD []), id, quantity, price⟩

/-- The drop as it is written on the command line. -/
def Drop.argument (d : Drop) : List Char :=
  Text.integer d.id.val ++ ':' :: Text.integer d.quantity.val ++ ':' ::
    Text.integer d.price.val ++ ':' :: d.name.toList

end DropLedger
