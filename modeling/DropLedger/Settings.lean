import DropLedger.Notice
import DropLedger.Json.Decoder
import DropLedger.Json.Writer
import DropLedger.Text.Blank

/-! What a user sets once: where the logs are, whose they are, and how much is reported. -/
namespace DropLedger

structure Environment where
  values : List (String × Bytes)

namespace Environment

def text? (env : Environment) (name : String) : Option String :=
  (env.values.lookup name).bind Utf8.toString?

def set (env : Environment) (name : String) (value : Bytes) : Environment :=
  ⟨(name, value) :: env.values⟩

def unset (env : Environment) (name : String) : Environment :=
  ⟨env.values.filter (·.1 != name)⟩

/-- The home of the user, which an empty variable makes the working directory. -/
def home (env : Environment) : Path :=
  .ofString ((env.text? "HOME").getD ("/home/" ++ (env.text? "USER").getD "default"))

/-- Where the logs are unless something else is said. -/
def defaultRoot (env : Environment) : Path := env.home.child (Utf8.ofString ".loot-logger")

def rootVariable : String := "LOOT_LOGGER_ROOT"

end Environment

structure Settings where
  root : Path
  player : Option String
  logLevel : String
deriving DecidableEq, Repr

namespace Settings

def defaults (env : Environment) : Settings := ⟨env.defaultRoot, none, "info"⟩

/-- Sets the root. The empty path would be the working directory and is ignored. -/
def setRoot (s : Settings) (root : Path) : Settings :=
  if root.raw.isEmpty then s else { s with root }

def setPlayer (s : Settings) (player : Option String) : Settings :=
  { s with player := Selection.named player }

/-- A root in the environment goes before the one set. -/
def applyEnvironment (s : Settings) (env : Environment) : Settings :=
  match env.text? Environment.rootVariable with
  | some root => s.setRoot (.ofString root)
  | none => s

end Settings

structure SettingsDraft where
  root : Option Path := none
  player : Option (Option String) := none
  logLevel : Option String := none

namespace Settings

open Json (Decoder Layout Value)

/-- Every field may be missing and has its default then. -/
def layout (env : Environment) : Layout SettingsDraft Settings where
  title := "struct StoreSettings"
  start := {}
  fields := [
    .of "storage_root" false ((Decoder.text "path string").map Path.ofString) (·.root)
      fun s a => { s with root := some a },
    .of "player" false (.optional (.text "a string")) (·.player)
      fun s a => { s with player := some a },
    .of "log_level" false (.text "a string") (·.logLevel)
      fun s a => { s with logLevel := some a }]
  finish s :=
    let d := defaults env
    .ok ⟨s.root.getD d.root, s.player.getD d.player, s.logLevel.getD d.logLevel⟩

/-- Only a root that is text can be written. -/
def toValue? (s : Settings) : Option Value :=
  (Utf8.toString? s.root.raw).map fun root => .object [
    ("storage_root", .text root),
    ("player", match s.player with
      | some name => .text name
      | none => .null),
    ("log_level", .text s.logLevel)]

end Settings

end DropLedger
