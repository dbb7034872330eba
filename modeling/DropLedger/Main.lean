import DropLedger.Command.Run

/-! The program on a real disk. It looks up the few nodes that a run can come to, leaves the run to
`Invocation.run`, and then makes the changes that the run wrote down. -/
namespace DropLedger.Main

/-- The name of a location on the system. -/
def systemName (loc : Location) : String :=
  Utf8.lossy (slash :: List.intercalate [slash] loc)

/-- The locations that names lead through, the last one where it leads. -/
def stops (loc : Location) : List Bytes → List Location
  | [] => [loc]
  | name :: names =>
    let next := if name = here then loc else if name = above then loc.dropLast else loc ++ [name]
    loc :: stops next names

/-- The node at a location. The entries of a directory are not looked up. -/
def nodeAt (loc : Location) : IO (Option Node) := do
  try
    let path ← IO.FS.realPath (systemName loc)
    if (← path.metadata).type == .dir then return some (.dir [])
    return some (.file (← IO.FS.readBinFile path).toList)
  catch _ => return none

/-- The names in a directory; none if it is not one. -/
def namesAt (loc : Location) : IO (List Bytes) := do
  try
    let path ← IO.FS.realPath (systemName loc)
    return (← path.readDir).toList.map fun e => Utf8.ofString e.fileName
  catch _ => return []

/-- Takes a node into the picture of the disk, unless it is there. -/
def picture (d : Disk) (loc : Location) : IO Disk := do
  if (d.look loc).isSome then return d
  match ← nodeAt loc with
  | none => return d
  | some node =>
    return { d with top := (Node.alter (fun _ => some node) loc (some d.top)).getD d.top }

/-- Takes in what a path names and what is on the way. -/
def picturePath (d : Disk) (p : Path) : IO Disk :=
  (stops (if p.absolute then [] else d.start) p.names).foldlM picture d

/-- Takes in a directory with its entries. -/
def pictureDirectory (d : Disk) (p : Path) : IO Disk := do
  let d ← picturePath d p
  match d.locate p with
  | .error _ => return d
  | .ok (loc, _) => (← namesAt loc).foldlM (fun d name => picture d (loc ++ [name])) d

/-- Makes one change on the system. -/
def perform : Change → IO Unit
  | .makeDir loc => IO.FS.createDir (systemName loc)
  | .clear loc => IO.FS.writeBinFile (systemName loc) ⟨#[]⟩
  | .extend loc more => do
    let file ← IO.FS.Handle.mk (systemName loc) .append
    file.write ⟨more.toArray⟩
    file.flush
  | .move source target => IO.FS.rename (systemName source) (systemName target)
  | .remove loc => IO.FS.removeFile (systemName loc)

def environment : IO Environment := do
  let names := ["HOME", "USER", Environment.rootVariable, Filter.variableName]
  let found ← names.filterMapM fun name => do
    return (← IO.getEnv name).map fun value => (name, Utf8.ofString value)
  return ⟨found⟩

/-- The disk of the system, on which only the working directory has been looked up. -/
def blankDisk : IO Disk := do
  let here := Path.ofString (← IO.currentDir).toString
  picturePath { top := .dir [], start := here.names } here

/-- Makes the changes of a run, and prints what it prints. -/
def finish (o : Outcome) : IO UInt32 := do
  o.disk.journal.reverse.forM perform
  for line in o.complaints do IO.eprintln line
  for line in o.output do IO.println line
  if let .crashed crash := o.ending then IO.eprintln crash.message
  return .ofNat o.ending.code

end DropLedger.Main

open DropLedger in
def main (args : List String) : IO UInt32 := do
  let words := args.map Utf8.ofString
  let env ← Main.environment
  match Invocation.read words with
  | .error _ => Main.finish (run words env ⟨.dir [], [], []⟩)
  | .ok i =>
    let d ← Main.picturePath (← Main.blankDisk) (i.settings.getD Settings.fileName)
    let settings := (i.settingsOn env d).1
    let selection := (Invocation.storeOn settings d).selection
    let d ← Main.pictureDirectory d settings.root
    let d ← Main.pictureDirectory d selection.directory
    Main.finish (i.run env d)
