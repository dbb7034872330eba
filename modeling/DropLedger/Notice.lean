import DropLedger.Selection
import DropLedger.Json.Fault

/-! What the program reports about its own work. -/
namespace DropLedger

inductive Level where
  | error
  | warn
  | info
  | debug
deriving DecidableEq, Repr

namespace Level

def rank : Level → Nat
  | .error => 1
  | .warn => 2
  | .info => 3
  | .debug => 4

def label : Level → String
  | .error => "ERROR"
  | .warn => "WARN"
  | .info => "INFO"
  | .debug => "DEBUG"

end Level

inductive Origin where
  | program
  | store
  | listing
  | settings
deriving DecidableEq, Repr

/-- The name of a part, which begins with the name of the whole. -/
def Origin.name : Origin → String
  | .program => "loot_logger"
  | .store => "loot_logger::storage::store"
  | .listing => "loot_logger::storage::finder"
  | .settings => "loot_logger::utils::settings_persistence"

inductive ReadFault where
  | disk (cause : Cause)
  | notText
deriving DecidableEq, Repr

def ReadFault.message : ReadFault → String
  | .disk cause => cause.message
  | .notText => "stream did not contain valid UTF-8"

inductive Notice where
  | playerRefused (fault : StoreFault)
  | directorySelected (player : Option String) (path : Path)
  | directoryFailed (path : Path) (cause : Cause)
  | fileIgnored (name : String)
  | lineNotText (path : Path) (line : Nat) (fault : Utf8.Fault)
  | lineMalformed (path : Path) (line : Nat) (fault : Json.Fault)
  | loadFailed (entity : String) (fault : StoreFault)
  | listedLoadFailed (key : String) (fault : StoreFault)
  | appended (entity : String) (path : Path)
  | appendFailed (entity : String) (fault : StoreFault)
  | replaced (entity : String) (kills : Nat)
  | replaceFailed (entity : String) (fault : StoreFault)
  | deleted (entity : String) (path : Path)
  | nothingToDelete (entity : String)
  | deleteFailed (entity : String) (fault : StoreFault)
  | nothingToAmend (entity : String)
  | amendSkips (entity : String) (lines : Nat)
  | amended (entity : String)
  | amendFailed (entity : String) (fault : StoreFault)
  | inspectFailed (entity : String) (fault : StoreFault)
  | migrationSkips (entity : String) (lines : Nat)
  | migrated (entity : String) (converted total : Nat)
  | migrateFailed (entity : String) (fault : StoreFault)
  | settingsMissing (path : Path)
  | settingsLoaded (root : Path) (player : Option String)
  | settingsUnreadable (fault : ReadFault)
  | settingsMalformed (fault : Json.Fault)
  | settingsSaved (path : Path)
  | settingsNotSaved (fault : StoreFault)
  | started (root : Path)
deriving DecidableEq

namespace Notice

/-- The value of a field: as it is, or between quotes. -/
inductive Shown where
  | plain (s : String)
  | quoted (s : String)

def Shown.text : Shown → String
  | .plain s => s
  | .quoted s => Text.quoted s

/-- Stands for no player. -/
def sharedLabel : String := "<shared>"

def count (n : Nat) : Shown := .plain (String.ofList (Text.natural n))

def parts : Notice → Level × String × List (String × Shown)
  | .playerRefused fault =>
    (.error, "Refusing player directory, keeping the current one",
      [("error", .plain fault.message)])
  | .directorySelected player path =>
    (.info, "Selected loot directory",
      [("identity", .quoted (player.getD sharedLabel)), ("path", .plain path.display)])
  | .directoryFailed path cause =>
    (.error, "Failed to create loot directory",
      [("path", .plain path.display), ("error", .plain cause.message)])
  | .fileIgnored name =>
    (.debug, "Ignoring log file that doesn't map to an entity", [("file", .quoted name)])
  | .lineNotText path line fault =>
    (.warn, "Skipping loot record that isn't valid UTF-8",
      [("path", .plain path.display), ("line", count line), ("error", .plain fault.message)])
  | .lineMalformed path line fault =>
    (.warn, "Skipping malformed loot record",
      [("path", .plain path.display), ("line", count line), ("error", .plain fault.message)])
  | .loadFailed entity fault =>
    (.error, "Failed to load loot records",
      [("entity", .quoted entity), ("error", .plain fault.message)])
  | .listedLoadFailed key fault =>
    (.error, "Failed to load loot records",
      [("entity", .plain key), ("error", .plain fault.message)])
  | .appended entity path =>
    (.debug, "Appended loot record", [("entity", .plain entity), ("path", .plain path.display)])
  | .appendFailed entity fault =>
    (.error, "Failed to append loot record",
      [("entity", .plain entity), ("error", .plain fault.message)])
  | .replaced entity kills =>
    (.debug, "Rewrote loot records", [("entity", .quoted entity), ("count", count kills)])
  | .replaceFailed entity fault =>
    (.error, "Failed to rewrite loot records",
      [("entity", .quoted entity), ("error", .plain fault.message)])
  | .deleted entity path =>
    (.info, "Deleted loot records", [("entity", .quoted entity), ("path", .plain path.display)])
  | .nothingToDelete entity =>
    (.debug, "No loot records to delete", [("entity", .quoted entity)])
  | .deleteFailed entity fault =>
    (.error, "Failed to delete loot records",
      [("entity", .quoted entity), ("error", .plain fault.message)])
  | .nothingToAmend entity =>
    (.debug, "No record to amend, appended a new one", [("entity", .quoted entity)])
  | .amendSkips entity lines =>
    (.warn, "Unreadable lines will be dropped by the amend rewrite",
      [("entity", .quoted entity), ("dropped", count lines)])
  | .amended entity => (.debug, "Amended last loot record", [("entity", .quoted entity)])
  | .amendFailed entity fault =>
    (.error, "Failed to amend last loot record",
      [("entity", .quoted entity), ("error", .plain fault.message)])
  | .inspectFailed entity fault =>
    (.error, "Failed to inspect loot records",
      [("entity", .quoted entity), ("error", .plain fault.message)])
  | .migrationSkips entity lines =>
    (.warn, "Unreadable lines will be dropped by the migration rewrite",
      [("entity", .quoted entity), ("dropped", count lines)])
  | .migrated entity converted total =>
    (.info, "Migrated loot records to current format",
      [("entity", .quoted entity), ("converted", count converted), ("total", count total)])
  | .migrateFailed entity fault =>
    (.error, "Failed to migrate loot records",
      [("entity", .quoted entity), ("error", .plain fault.message)])
  | .settingsMissing path =>
    (.info, "No existing settings found, using defaults", [("path", .plain path.display)])
  | .settingsLoaded root player =>
    (.info, "Loaded settings",
      [("storage_root", .plain root.display), ("player", .quoted (player.getD sharedLabel))])
  | .settingsUnreadable fault =>
    (.warn, "Error reading settings file, using defaults", [("error", .plain fault.message)])
  | .settingsMalformed fault =>
    (.warn, "Error parsing settings JSON, using defaults", [("error", .plain fault.message)])
  | .settingsSaved path => (.info, "Saved settings", [("path", .plain path.display)])
  | .settingsNotSaved fault =>
    (.error, "Failed to auto-save settings", [("error", .plain fault.message)])
  | .started root => (.info, "Starting loot logger", [("storage_root", .plain root.display)])

def level (n : Notice) : Level := n.parts.1

/-- The names of the fields of a notice. The message is one of them. -/
def fieldNames (n : Notice) : List String := "message" :: n.parts.2.2.map (·.1)

def origin : Notice → Origin
  | .started _ => .program
  | .fileIgnored _ => .listing
  | .settingsMissing _ | .settingsLoaded _ _ | .settingsUnreadable _ | .settingsMalformed _
  | .settingsSaved _ | .settingsNotSaved _ => .settings
  | _ => .store

/-- The line of a notice: level, message, and fields as `name=value`. -/
def line (n : Notice) : String :=
  let (level, message, fields) := n.parts
  fields.foldl (fun s (name, value) => s ++ " " ++ name ++ "=" ++ value.text)
    (level.label ++ " " ++ message)

end Notice

end DropLedger
