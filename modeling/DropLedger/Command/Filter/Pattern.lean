import DropLedger.Command.Filter.Pattern.Reading

/-! Which texts are patterns for the value of a field. -/
namespace DropLedger.Pattern

inductive Fault where
  | malformed
  | wordBoundary
deriving DecidableEq, Repr

def Fault.message : Fault → String
  | .malformed => "error building NFA"
  | .wordBoundary =>
    "unsupported regex feature for DFAs: cannot build DFAs for regexes with Unicode word " ++
      "boundaries; switch to ASCII word boundaries, or heuristically enable Unicode word " ++
      "boundaries or use a different regex engine"

def check (cs : List Char) : Except Fault Unit :=
  match Reading.run {} cs with
  | none => .error .malformed
  | some r =>
    if !r.complete then .error .malformed
    else if r.boundary then .error .wordBoundary
    else .ok ()

end DropLedger.Pattern
