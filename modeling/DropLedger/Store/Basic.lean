import DropLedger.Notice
import DropLedger.Disk.Operations

/-! A store: a disk, the directory that is selected on it, and what has been reported. -/
namespace DropLedger

/-- `notices` holds what has been reported, the latest first. -/
structure Store where
  disk : Disk
  selection : Selection
  notices : List Notice := []

/-- What comes of an attempt, and the store after it. A failure is handed on, not reported. -/
abbrev Attempt (α : Type) := Except StoreFault α × Store

namespace Store

def note (s : Store) (n : Notice) : Store := { s with notices := n :: s.notices }

def noteAll (s : Store) (ns : List Notice) : Store := { s with notices := ns.reverse ++ s.notices }

/-- Takes over what was done on the disk, and reports it if it went well. -/
def concluded (s : Store) (done : Except Cause Unit × Disk) (n : Notice) : Attempt Unit :=
  match done with
  | (.ok (), d) => (.ok (), { s with disk := d }.note n)
  | (.error e, d) => (.error (.disk e), { s with disk := d })

/-- Selects a player and makes the directory. A refused name changes nothing, but a directory that
cannot be made is selected all the same. -/
def selectPlayer (s : Store) (player : Option String) : Bool × Store :=
  match s.selection.select player with
  | .error e => (false, s.note (.playerRefused e))
  | .ok selection =>
    match s.disk.makeDirs selection.directory with
    | (.ok (), d) =>
      (true, { s with disk := d, selection }.note
        (.directorySelected selection.player selection.directory))
    | (.error e, d) =>
      (false, { s with disk := d, selection }.note (.directoryFailed selection.directory e))

/-- Turns to another root. A refused player leaves the directory that all share. -/
def moveTo (s : Store) (root : Path) (player : Option String) : Store :=
  ({ s with selection := ⟨root, none⟩ }.selectPlayer player).2

end Store

namespace Attempt

variable {α : Type}

/-- Reports a failure instead of handing it on. -/
def reported (a : Attempt α) (n : StoreFault → Notice) : Bool × Store :=
  match a with
  | (.ok _, s) => (true, s)
  | (.error e, s) => (false, s.note (n e))

end Attempt

end DropLedger
