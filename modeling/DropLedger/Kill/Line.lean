import DropLedger.Kill.Layout
import DropLedger.Json.Writer
import DropLedger.Text.Blank

/-! One kill on one line. -/
namespace DropLedger

inductive Format where
  | current
  | older
deriving DecidableEq, Repr

structure StoredKill where
  kill : Kill
  format : Format
deriving DecidableEq, Repr

namespace Kill

/-- The line of a kill, without its line end. Line ends in names are escaped. -/
def line (k : Kill) : List Char := k.toValue.compact

end Kill

/-- The current layout is tried first. A value that fits neither is no kill. -/
def StoredKill.ofValue? (v : Json.Value) : Option StoredKill :=
  match Current.killLayout.decoder.ofValue v with
  | some k => some ⟨k, .current⟩
  | none => (Older.killLayout.decoder.ofValue v).map (⟨·, .older⟩)

/-- Reads the line of a kill; white space around it does not count. The line is read as a value
first, so that a fault anywhere in it is found before the layouts are tried. -/
def StoredKill.ofLine (cs : List Char) : Except Json.Fault StoredKill := do
  let (v, rest) ← Json.readValue Json.maxDepth (Text.trimChars cs)
  match ofValue? v with
  | none => throw .noVariant
  | some e =>
    Json.finish rest
    return e

end DropLedger
