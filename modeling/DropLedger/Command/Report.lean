import DropLedger.Tally
import DropLedger.Text.Decimal

/-! What the commands print. A line whose value does not fit is not printed, nor is anything after
it. -/
namespace DropLedger

def alignRight (width : Nat) (cs : List Char) : List Char :=
  List.replicate (width - cs.length) ' ' ++ cs

def alignLeft (width : Nat) (cs : List Char) : List Char :=
  cs ++ List.replicate (width - cs.length) ' '

def figure (n : Int) : String := String.ofList (Text.integer n)

/-- The lines of a report, each of which may fail. -/
abbrev Lines := List (Except Overflow String)

namespace Lines

def printed : Lines → List String × Option Overflow
  | [] => ([], none)
  | .ok line :: rest => let (lines, fault) := printed rest; (line :: lines, fault)
  | .error fault :: _ => ([], some fault)

end Lines

/-- Quantity, name with id, price and value, in columns. -/
def Drop.line (d : Drop) : Except Overflow String := do
  let value ← d.value
  let quantity := alignRight 6 (Text.integer d.quantity.val)
  let name := alignLeft 30 (d.name ++ " (" ++ figure d.id.val ++ ")").toList
  let price := alignRight 10 (Text.integer d.price.val)
  return "  " ++ String.ofList quantity ++ " x " ++ String.ofList name ++ " @ " ++
    String.ofList price ++ " = " ++ figure value.val

def Kill.headline (k : Kill) : Except Overflow String := do
  let value ← k.value
  return k.name ++ " (id " ++ figure k.id.val ++ ", level " ++ figure k.level.val ++ ", kc " ++
    figure k.killCount.val ++ "): " ++ figure k.drops.length ++ " items, value " ++
    figure value.val

def Summary.headline (s : Summary) : String :=
  let highest := match s.highestKillCount with
    | some n => figure n.val
    | none => "unknown"
  s.entity ++ ": " ++ figure s.killTotal ++ " records, highest kc " ++ highest ++
    ", total value " ++ figure s.totalValue.val

namespace Lines

def ofDrops (ds : List Drop) : Lines := ds.map Drop.line

def ofKills (ks : List Kill) : Lines := ks.flatMap fun k => k.headline :: ofDrops k.drops

def ofTally (t : Tally) : Lines :=
  match t.byValue with
  | .ok items => ofDrops items
  | .error fault => [.error fault]

def ofSummary : Except Overflow Summary → Lines
  | .ok s => .ok s.headline :: ofDrops s.items
  | .error fault => [.error fault]

end Lines

end DropLedger
