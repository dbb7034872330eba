import DropLedger.Text.Utf8

/-! Paths. A path is kept as it was written and only taken apart to follow it. -/
namespace DropLedger

structure Path where
  raw : Bytes
deriving DecidableEq, Repr

def slash : UInt8 := 0x2F

/-- The name that stays in a directory. -/
def here : Bytes := [0x2E]

/-- The name that leads out of a directory. -/
def above : Bytes := [0x2E, 0x2E]

def dot : UInt8 := 0x2E

/-- What stands before the last dot of a file name. A dot that the name begins with does not count,
and names that only lead on have no stem. -/
def fileStem? (name : Bytes) : Option Bytes :=
  if name.isEmpty || name = here || name = above then none
  else match name.reverse.dropWhile (· ≠ dot) with
    | _ :: b :: front => some (b :: front).reverse
    | _ => some name

/-- The name with another ending in place of what stands behind its last dot. -/
def withEnding (name ending : Bytes) : Bytes :=
  match fileStem? name with
  | none => name
  | some stem => if ending.isEmpty then stem else stem ++ dot :: ending

namespace Path

def ofString (s : String) : Path := ⟨Utf8.ofString s⟩

/-- The path of an entry. A slash is put between unless the directory is empty or ends in one;
nothing else is changed. -/
def child (p : Path) (name : Bytes) : Path :=
  if p.raw.isEmpty || p.raw.getLast? == some slash then ⟨p.raw ++ name⟩
  else ⟨p.raw ++ slash :: name⟩

def display (p : Path) : String := Utf8.lossy p.raw

def absolute (p : Path) : Bool := p.raw.head? == some slash

/-- Whether the path ends in a slash, and so can only name a directory. -/
def slashed (p : Path) : Bool := p.raw.getLast? == some slash

def names (p : Path) : List Bytes := (splitBytes slash p.raw).filter (!·.isEmpty)

def upTo (p : Path) (length : Nat) : Path := ⟨p.raw.take length⟩

/-- Drops from the end of a path what stays in place. The path is given from its last byte. -/
def dropHere : Bytes → Bytes
  | 0x2F :: rest => dropHere rest
  | 0x2E :: 0x2F :: rest => dropHere rest
  | rest => rest

/-- Whether a name ends here that leads on, or that the path begins with. The path is given from
this byte back to its first. -/
def endsName : Bytes → Bool
  | [] => false
  | 0x2F :: _ => false
  | 0x2E :: 0x2F :: _ => false
  | _ => true

/-- The lengths at which names end that have a slash behind them, the greatest first. The bytes
are given from the last of them, with their number. -/
def turnsFrom (length : Nat) : Bytes → List Nat
  | [] => []
  | b :: rest =>
    let others := turnsFrom (length - 1) rest
    if b = slash && endsName rest then (length - 1) :: others else others

/-- The lengths of the beginnings of a path that name the directories on the way, the nearest
first. Where the path starts is not one of them. -/
def turns (p : Path) : List Nat :=
  let text := dropHere p.raw.reverse
  turnsFrom text.length text

/-- Whether the path names only where it starts. -/
def rootOnly (p : Path) : Bool := (dropHere p.raw.reverse).isEmpty

end Path

end DropLedger
