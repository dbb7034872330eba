import DropLedger.Settings
import DropLedger.Disk.Operations

/-! Settings in a file. Reading them never fails: what cannot be read leaves the defaults. -/
namespace DropLedger.Settings

def fileName : Path := .ofString "settings.json"

def textOf (d : Disk) (p : Path) : Except ReadFault (List Char) :=
  match d.read p with
  | .error cause => .error (.disk cause)
  | .ok content =>
    match Utf8.decode content with
    | .error _ => .error .notText
    | .ok cs => .ok cs

/-- Reads settings, and reports how that went. -/
def load (env : Environment) (d : Disk) (p : Path) : Settings × Notice :=
  if d.holds p then
    match textOf d p with
    | .error fault => (defaults env, .settingsUnreadable fault)
    | .ok cs =>
      match Json.decode (layout env).decoder cs with
      | .error fault => (defaults env, .settingsMalformed fault)
      | .ok s => (s, .settingsLoaded s.root s.player)
  else (defaults env, .settingsMissing p)

/-- Writes settings, laid out over lines. Those that cannot be written leave the file alone, as they
are laid out before it is opened. -/
def save (s : Settings) (d : Disk) (p : Path) : Except StoreFault Unit × Disk :=
  match s.toValue? with
  | none => (.error .rootNotText, d)
  | some v =>
    match d.write p (Utf8.encode (v.pretty 0)) with
    | .error cause => (.error (.disk cause), d)
    | .ok d => (.ok (), d)

def autoSave (s : Settings) (d : Disk) (p : Path) : Disk × Notice :=
  match s.save d p with
  | (.ok (), d) => (d, .settingsSaved p)
  | (.error fault, d) => (d, .settingsNotSaved fault)

end DropLedger.Settings
