/-! Sets of characters, given as ranges of code points. -/
namespace DropLedger.Text

/-- Code points from the first of each pair to the second, both included. -/
abbrev Ranges := List (Nat × Nat)

def Ranges.has (r : Ranges) (c : Char) : Bool :=
  r.any fun p => p.1 ≤ c.toNat && c.toNat ≤ p.2

end DropLedger.Text
