import DropLedger.Kill.Line
import DropLedger.Text.Utf8

/-! A log: the kills of one entity, one on each line. Every line is read on its own. -/
namespace DropLedger

/-- What a line of a log holds. -/
inductive LogLine where
  | blank
  | kill (k : StoredKill)
  | notText (fault : Utf8.Fault)
  | malformed (fault : Json.Fault)
deriving DecidableEq

namespace LogLine

def read (bs : Bytes) : LogLine :=
  match Utf8.decode bs with
  | .error fault => .notText fault
  | .ok cs =>
    if (Text.trimChars cs).isEmpty then .blank
    else match StoredKill.ofLine cs with
      | .ok k => .kill k
      | .error fault => .malformed fault

def kill? : LogLine → Option StoredKill
  | .kill k => some k
  | _ => none

/-- The line holds something that cannot be read. Blank lines hold nothing. -/
def isSkipped : LogLine → Bool
  | .notText _ | .malformed _ => true
  | _ => false

end LogLine

structure Log where
  lines : List LogLine

namespace Log

def read (content : Bytes) : Log := ⟨(splitBytes newline content).map LogLine.read⟩

def stored (l : Log) : List StoredKill := l.lines.filterMap LogLine.kill?

def kills (l : Log) : List Kill := l.stored.map (·.kill)

/-- The number of lines that hold something unreadable. -/
def skipped (l : Log) : Nat := l.lines.countP LogLine.isSkipped

/-- The number of kills in the older layout. -/
def older (l : Log) : Nat := l.stored.countP fun k => k.format == .older

/-- One line for each kill, each with its line end. -/
def write (ks : List Kill) : Bytes := ks.flatMap fun k => Utf8.encode k.line ++ [newline]

end Log

end DropLedger
