import DropLedger.Disk.Node
import DropLedger.Disk.Path

/-! A disk: a tree, the directory in which paths start, and the changes made so far. -/
namespace DropLedger

inductive Cause where
  | noEntry
  | entryExists
  | notDirectory
  | isDirectory
  | nameTooLong
  | zeroByte
deriving DecidableEq, Repr

def Cause.message : Cause → String
  | .noEntry => "No such file or directory (os error 2)"
  | .entryExists => "File exists (os error 17)"
  | .notDirectory => "Not a directory (os error 20)"
  | .isDirectory => "Is a directory (os error 21)"
  | .nameTooLong => "File name too long (os error 36)"
  | .zeroByte => "file name contained an unexpected NUL byte"

/-- A name has at most so many bytes. -/
def nameLimit : Nat := 255

/-- A path has at most so many bytes. -/
def pathLimit : Nat := 4095

/-- Why a path is not even looked up. -/
def Path.refusal? (p : Path) : Option Cause :=
  if p.raw.contains 0 then some .zeroByte
  else if pathLimit < p.raw.length then some .nameTooLong
  else none

/-- One step of writing. `clear` makes a file empty, and makes it if there is none. -/
inductive Change where
  | makeDir (loc : Location)
  | clear (loc : Location)
  | extend (loc : Location) (more : Bytes)
  | move (source target : Location)
  | remove (loc : Location)
deriving DecidableEq, Repr

def Change.apply (c : Change) (top : Node) : Node :=
  let alter (f : Option Node → Option Node) (loc : Location) (top : Node) : Node :=
    (Node.alter f loc (some top)).getD top
  match c with
  | .makeDir loc => alter (fun n => some (n.getD (.dir []))) loc top
  | .clear loc => alter (fun _ => some (.file [])) loc top
  | .extend loc more =>
    alter (fun
      | some (.file content) => some (.file (content ++ more))
      | n => n) loc top
  | .move source target =>
    let moved := top.at? source
    alter (fun _ => moved) target (alter (fun _ => none) source top)
  | .remove loc => alter (fun _ => none) loc top

/-- `journal` holds the changes made, the latest first. -/
structure Disk where
  top : Node
  start : Location
  journal : List Change := []

/-- The way from the top of a disk to a node: the nodes passed with their names, the last one
first. -/
abbrev Trail := List (Bytes × Node)

def Trail.location (t : Trail) : Location := (t.map (·.1)).reverse

namespace Disk

def look (d : Disk) (loc : Location) : Option Node := d.top.at? loc

def commit (d : Disk) (c : Change) : Disk :=
  { d with top := c.apply d.top, journal := c :: d.journal }

def node (d : Disk) : Trail → Node
  | [] => d.top
  | (_, n) :: _ => n

def enter (d : Disk) (t : Trail) (name : Bytes) : Except Cause Trail :=
  match d.node t with
  | .file _ => .error .notDirectory
  | .dir es =>
    if name = here then .ok t
    else if name = above then .ok t.tail
    else if nameLimit < name.length then .error .nameTooLong
    else match es.lookup name with
      | some n => .ok ((name, n) :: t)
      | none => .error .noEntry

def walk (d : Disk) (t : Trail) : List Bytes → Except Cause Trail
  | [] => .ok t
  | name :: names => do d.walk (← d.enter t name) names

def origin (d : Disk) (p : Path) : Except Cause Trail :=
  if p.absolute then .ok [] else d.walk [] d.start

/-- What a path names. The empty path names nothing, and a path that ends in a slash names a
directory. -/
def locate (d : Disk) (p : Path) : Except Cause (Location × Node) := do
  if let some cause := p.refusal? then throw cause
  if p.raw.isEmpty then throw .noEntry
  let t ← d.walk (← d.origin p) p.names
  if p.slashed && !(d.node t).isDir then throw .notDirectory
  return (t.location, d.node t)

/-- The location that a path gives to what it is to name, and what is there already. `none` stands
for a directory that has no name at the end of the path. -/
def place (d : Disk) (p : Path) : Except Cause (Option (Location × Option Node)) := do
  if let some cause := p.refusal? then throw cause
  match p.names.getLast? with
  | none => if p.absolute then return none else throw .noEntry
  | some name =>
    let t ← d.walk (← d.origin p) p.names.dropLast
    match d.node t with
    | .file _ => throw .notDirectory
    | .dir es =>
      if name = here || name = above then return none
      else if nameLimit < name.length then throw .nameTooLong
      else return some (t.location ++ [name], es.lookup name)

def isDir (d : Disk) (p : Path) : Bool :=
  match d.locate p with
  | .ok (_, n) => n.isDir
  | .error _ => false

def holds (d : Disk) (p : Path) : Bool := (d.locate p).isOk

/-- The location of a file to be written, and the content it has if it is there. -/
def fileTarget (d : Disk) (p : Path) : Except Cause (Location × Option Bytes) := do
  let some (loc, found) ← d.place p | throw .isDirectory
  match p.slashed, found with
  | false, none => return (loc, none)
  | false, some (.file content) => return (loc, some content)
  | _, _ => throw .isDirectory

end Disk

end DropLedger
