import DropLedger.Disk.Basic

/-! Reading and writing a disk. What fails half way leaves behind what it had done. -/
namespace DropLedger.Disk

def read (d : Disk) (p : Path) : Except Cause Bytes := do
  match ← d.locate p with
  | (_, .file content) => return content
  | (_, .dir _) => throw .isDirectory

def entries (d : Disk) (p : Path) : Except Cause (List (Bytes × Node)) := do
  match ← d.locate p with
  | (_, .dir es) => return Node.listing es
  | (_, .file _) => throw .notDirectory

def makeDir (d : Disk) (p : Path) : Except Cause Disk := do
  match ← d.place p with
  | some (loc, none) => return d.commit (.makeDir loc)
  | _ => throw .entryExists

/-- A directory that could not be made is fine if it is there. -/
def settle (d : Disk) (p : Path) (made : Except Cause Disk) : Except Cause Unit × Disk :=
  match made with
  | .ok d => (.ok (), d)
  | .error e => if d.isDir p then (.ok (), d) else (.error e, d)

/-- Makes the directory that a beginning of a path names, given by its length, and before it the
others where one is missing. -/
def makeChain (d : Disk) (p : Path) : List Nat → Except Cause Unit × Disk
  | [] => (.ok (), d)
  | length :: up =>
    match d.makeDir (p.upTo length) with
    | .error .noEntry =>
      match d.makeChain p up with
      | (.error e, d) => (.error e, d)
      | (.ok (), d) => d.settle (p.upTo length) (d.makeDir (p.upTo length))
    | made => d.settle (p.upTo length) made

def makeDirs (d : Disk) (p : Path) : Except Cause Unit × Disk :=
  if p.rootOnly then (.ok (), d) else d.makeChain p (p.raw.length :: p.turns)

/-- Makes the directories on the way to what a path names. -/
def makeWay (d : Disk) (p : Path) : Except Cause Unit × Disk := d.makeChain p p.turns

/-- The file of a path, made if there is none, with its content. -/
def openFile (d : Disk) (p : Path) : Except Cause (Location × Bytes × Disk) := do
  match ← d.fileTarget p with
  | (loc, some content) => return (loc, content, d)
  | (loc, none) => return (loc, [], d.commit (.clear loc))

/-- The file of a path, made empty. -/
def clearFile (d : Disk) (p : Path) : Except Cause (Location × Disk) := do
  let (loc, _) ← d.fileTarget p
  return (loc, d.commit (.clear loc))

def move (d : Disk) (source target : Path) : Except Cause Disk := do
  let (old, _) ← d.locate source
  let (new, _) ← d.fileTarget target
  return d.commit (.move old new)

def remove (d : Disk) (p : Path) : Except Cause Disk := do
  match ← d.locate p with
  | (loc, .file _) => return d.commit (.remove loc)
  | (_, .dir _) => throw .isDirectory

def write (d : Disk) (p : Path) (content : Bytes) : Except Cause Disk := do
  let (loc, d) ← d.clearFile p
  return d.commit (.extend loc content)

/-- Adds a line to the end of a file, which is made if there is none. -/
def appendLine (d : Disk) (p : Path) (line : Bytes) : Except Cause Unit × Disk :=
  match d.makeWay p with
  | (.error e, d) => (.error e, d)
  | (.ok (), d) =>
    match d.openFile p with
    | .error e => (.error e, d)
    | .ok (loc, content, d) => (.ok (), d.commit (.extend loc (freshLine content line)))

/-- Replaces a file as a whole: the content is written to a spare file, which is then moved over
it. A spare file that cannot be moved is taken away. -/
def replace (d : Disk) (p spare : Path) (content : Bytes) : Except Cause Unit × Disk :=
  match d.makeWay p with
  | (.error e, d) => (.error e, d)
  | (.ok (), d) =>
    match d.write spare content with
    | .error e => (.error e, d)
    | .ok d =>
      match d.move spare p with
      | .ok d => (.ok (), d)
      | .error e =>
        match d.remove spare with
        | .ok d => (.error e, d)
        | .error _ => (.error e, d)

end DropLedger.Disk
