import DropLedger.Store.Basic
import DropLedger.Kill.Log
import DropLedger.Tally

/-! What can be learned from a store. Nothing here changes the disk. -/
namespace DropLedger

/-- The log in a file. A file that is not there holds nothing. -/
def Disk.readLog (d : Disk) (p : Path) : Except Cause Log :=
  match d.read p with
  | .ok content => .ok (Log.read content)
  | .error .noEntry => .ok ⟨[]⟩
  | .error e => .error e

namespace Log

/-- One notice for each line that cannot be read; lines are counted from one. -/
def notices (l : Log) (p : Path) : List Notice :=
  l.lines.zipIdx.filterMap fun
    | (.notText fault, n) => some (.lineNotText p (n + 1) fault)
    | (.malformed fault, n) => some (.lineMalformed p (n + 1) fault)
    | _ => none

end Log

def keyLe (a b : String) : Bool := bytesLe (Utf8.ofString a) (Utf8.ofString b)

/-- The key that a file name belongs to. A stem that is not its own key belongs to none: no entity
leads to it. -/
def listed? (name : String) : Option String :=
  (stem? name).filter fun stem => keyOf? stem == some stem

namespace Disk

/-- The names of the regular files of a directory, as far as they are text and the files can be
looked up. A directory that cannot be read has none. -/
def fileNames (d : Disk) (directory : Path) : List String :=
  match d.entries directory with
  | .error _ => []
  | .ok es =>
    (es.filter fun e => !e.2.isDir && (directory.child e.1).refusal?.isNone).filterMap fun e =>
      Utf8.toString? e.1

def keys (d : Disk) (directory : Path) : List String :=
  ((d.fileNames directory).filterMap listed?).mergeSort keyLe

/-- Files that look like logs but belong to no key. -/
def strays (d : Disk) (directory : Path) : List String :=
  (d.fileNames directory).filter fun name => (stem? name).isSome && (listed? name).isNone

end Disk

namespace Store

/-- The keys whose logs are in a directory, whether it is selected or not. -/
def keysIn (s : Store) (directory : Path) : List String × Store :=
  (s.disk.keys directory, s.noteAll ((s.disk.strays directory).map .fileIgnored))

def keys (s : Store) : List String × Store := s.keysIn s.selection.directory

def logOf (s : Store) (entity : String) : Except StoreFault Log :=
  match s.selection.entityFile entity with
  | .error e => .error e
  | .ok p =>
    match s.disk.readLog p with
    | .ok log => .ok log
    | .error e => .error (.disk e)

/-- The log of an entity, with a notice for each line that cannot be read. -/
def readLog (s : Store) (entity : String) : Attempt Log :=
  match s.selection.entityFile entity, s.logOf entity with
  | .ok p, .ok log => (.ok log, s.noteAll (log.notices p))
  | _, result => (result, s)

def tryLoad (s : Store) (entity : String) : Attempt (List Kill) :=
  let (result, s) := s.readLog entity
  (result.map Log.kills, s)

def load (s : Store) (entity : String) : List Kill × Store :=
  match s.tryLoad entity with
  | (.ok kills, s) => (kills, s)
  | (.error e, s) => ([], s.note (.loadFailed entity e))

def loadEach (s : Store) : List String → List Kill × Store
  | [] => ([], s)
  | key :: keys =>
    let (kills, s) := match s.tryLoad key with
      | (.ok kills, s) => (kills, s)
      | (.error e, s) => ([], s.note (.listedLoadFailed key e))
    let (others, s) := s.loadEach keys
    (kills ++ others, s)

def loadAll (s : Store) : List Kill × Store :=
  let (keys, s) := s.keys
  s.loadEach keys

/-- Whether the log of an entity has kills in the older layout. -/
def needsMigration (s : Store) (entity : String) : Bool × Store :=
  match s.readLog entity with
  | (.ok log, s) => (log.older != 0, s)
  | (.error e, s) => (false, s.note (.inspectFailed entity e))

/-- How a summary names an entity. -/
def label (entity : String) : String := Text.lower (Text.trim entity)

def summary (s : Store) (entity : String) : Except Overflow Summary × Store :=
  let (kills, s) := s.load entity
  (Summary.ofKills (label entity) kills, s)

end Store

end DropLedger
