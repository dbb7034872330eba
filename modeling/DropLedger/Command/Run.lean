import DropLedger.Command.Arguments
import DropLedger.Command.Filter
import DropLedger.Command.Report
import DropLedger.Settings.File
import DropLedger.Store.Writing

/-! A run of the program, from its words to what it prints and to the disk it leaves. -/
namespace DropLedger

/-- What makes a run break off where nothing can be answered any more. -/
inductive Crash where
  | overflow (fault : Overflow)
  /-- A filter has a rule that would be cut inside a character. -/
  | tornRule
deriving DecidableEq, Repr

def Crash.message : Crash → String
  | .overflow fault => fault.message
  | .tornRule => RuleFault.message .torn

inductive Ending where
  | done
  | failed
  | crashed (crash : Crash)
  | stopped (stop : Stop)
deriving DecidableEq, Repr

def Ending.code : Ending → Nat
  | .done => 0
  | .failed => 1
  | .crashed _ => 101
  | .stopped (.refused _) => 2
  | .stopped _ => 0

structure Outcome where
  ending : Ending
  output : List String
  complaints : List String
  disk : Disk

/-- The settings of a run: those of the file, the root in the environment before them, and what the
words say before both. -/
def Invocation.settingsOn (i : Invocation) (env : Environment) (d : Disk) : Settings × Notice :=
  let (s, n) := Settings.load env d (i.settings.getD Settings.fileName)
  let s := s.applyEnvironment env
  let s := match i.root with
    | some root => s.setRoot root
    | none => s
  let s := match i.player with
    | some player => s.setPlayer (some player)
    | none => s
  (s, n)

/-- Does what is asked for: whether it went well, what to print, and the store after it. -/
def Command.run (s : Store) : Command → Bool × Lines × Store
  | .entities =>
    let (keys, s) := s.keys
    (true, keys.map .ok, s)
  | .show entity =>
    let (kills, s) := s.load entity
    (true, .ofKills kills, s)
  | .consolidate entity =>
    let (kills, s) := match entity with
      | some entity => s.load entity
      | none => s.loadAll
    (true, .ofTally (.ofKills kills), s)
  | .summary entity =>
    let (result, s) := s.summary entity
    (true, .ofSummary result, s)
  | .record kill => silent (s.append kill)
  | .amend entity drops => silent (s.amendLast entity drops)
  | .delete entity => silent (s.delete entity)
  | .migrate entity => silent (s.migrate entity)
where
  silent : Bool × Store → Bool × Lines × Store
    | (ok, s) => (ok, [], s)

namespace Filter

def variableName : String := "RUST_LOG"

/-- The filter of the environment, if there is one in which every rule is right. -/
def ofEnvironment (env : Environment) : Except Crash (Option Filter) :=
  match env.text? variableName with
  | none => .ok none
  | some s =>
    match strict s with
    | .ok f => .ok (some f)
    | .error .torn => .error .tornRule
    | .error _ => .ok none

def initial : Filter := ofLevel .info

/-- The filter of the settings, with what is said of the parts that are no rules. -/
def ofSettings (s : Settings) : Except Crash Filter × List String :=
  let (f, wrong) := lenient s.logLevel
  let said := (wrong.takeWhile (·.2 ≠ .torn)).map complaint
  (if wrong.any (·.2 = .torn) then .error .tornRule else .ok f, said)

def linesOf (f : Filter) (ns : List Notice) : List String := (ns.filter f.shows).map Notice.line

end Filter

namespace Invocation

def storeOn (s : Settings) (d : Disk) : Store :=
  Store.moveTo ⟨d, ⟨s.root, none⟩, [.started s.root]⟩ s.root s.player

/-- A run whose filter can be read: `before` is what is printed already. Notices come before what
the command prints: nothing is reported while it prints. -/
def runFiltered (i : Invocation) (settings : Settings) (d : Disk) (f : Filter)
    (before complaints : List String) : Outcome :=
  let (ok, lines, s) := i.command.run (storeOn settings d)
  let (printed, fault) := lines.printed
  {
    ending := match fault with
      | some fault => .crashed (.overflow fault)
      | none => if ok then .done else .failed
    output := before ++ f.linesOf s.notices.reverse ++ printed
    complaints
    disk := s.disk
  }

/-- A filter in the environment counts from the start, one in the settings from when they have been
read. A run that breaks off on its filter leaves the disk as it is. -/
def run (i : Invocation) (env : Environment) (d : Disk) : Outcome :=
  match Filter.ofEnvironment env with
  | .error crash => ⟨.crashed crash, [], [], d⟩
  | .ok chosen =>
    let (settings, first) := i.settingsOn env d
    let before := (chosen.getD Filter.initial).linesOf [first]
    match chosen with
    | some f => i.runFiltered settings d f before []
    | none =>
      match Filter.ofSettings settings with
      | (.ok f, said) => i.runFiltered settings d f before said
      | (.error crash, said) => ⟨.crashed crash, before, said, d⟩

end Invocation

namespace Stop

/-- What the program prints when it is asked about itself. -/
def output : Stop → List String
  | .help => [about]
  | .version => [programName ++ " 0.1.0"]
  | .refused _ => []

def complaints : Stop → List String
  | .refused fault => [fault.message]
  | _ => []

end Stop

/-- Runs the program on its words. A run that is stopped leaves the disk as it is. -/
def run (words : List Bytes) (env : Environment) (d : Disk) : Outcome :=
  match Invocation.read words with
  | .ok i => i.run env d
  | .error stop => ⟨.stopped stop, stop.output, stop.complaints, d⟩

end DropLedger
