import DropLedger.Key
import DropLedger.Disk.Basic
import DropLedger.Text.Quoted

/-! Where the logs are: the root of the store, or the directory of one player in it. -/
namespace DropLedger

inductive StoreFault where
  | disk (cause : Cause)
  | badEntity (name : String)
  | badPlayer (name : String)
  | rootNotText
deriving DecidableEq, Repr

def StoreFault.message : StoreFault → String
  | .disk cause => "IO error: " ++ cause.message
  | .badEntity name => "Invalid entity name: " ++ Text.quoted name
  | .badPlayer name => "Invalid player name: " ++ Text.quoted name
  | .rootNotText =>
    "Settings error: JSON serialization error: path contains invalid UTF-8 characters"

def keyOf (entity : String) : Except StoreFault String :=
  match keyOf? entity with
  | some key => .ok key
  | none => .error (.badEntity entity)

/-- No player means the directory that all share. -/
structure Selection where
  root : Path
  player : Option String
deriving DecidableEq, Repr

namespace Selection

/-- A blank name is no name. -/
def named (name : Option String) : Option String := (name.map Text.trim).filter (· ≠ "")

/-- Selects a player. A name that comes to nothing but dots would lead to the root or out of it and
is refused. -/
def select (s : Selection) (name : Option String) : Except StoreFault Selection :=
  match named name with
  | none => .ok { s with player := none }
  | some name =>
    if isDots (sanitize name.toList) then .error (.badPlayer name)
    else .ok { s with player := some name }

def directory (s : Selection) : Path :=
  match s.player with
  | none => s.root
  | some name => s.root.child (Utf8.encode (sanitize name.toList))

def logPath (s : Selection) (key : String) : Path := s.directory.child (logName key)

def sparePath (s : Selection) (key : String) : Path := s.directory.child (spareName key)

/-- The log of an entity. -/
def entityFile (s : Selection) (entity : String) : Except StoreFault Path :=
  (keyOf entity).map s.logPath

end Selection

end DropLedger
