import DropLedger.Command.Filter.Pattern
import DropLedger.Notice
import DropLedger.Text.Blank
import DropLedger.Text.Decimal

/-! The rules that choose notices. A rule is the name of a level, or the beginning of the name of a
part of the program, with more in brackets if there is more to say, and a level behind an equals
sign. -/
namespace DropLedger

/-- What a rule is about within the part of the program that it names. -/
inductive Subject where
  | everything
  /-- Notices with a field of this name. -/
  | field (name : List Char)
  /-- What is done for a task, or has a field with a certain value. No notice is reported there. -/
  | task
deriving DecidableEq, Repr

/-- Notices that the rule is about are shown if their rank is at most `rank`. The highest rank shows
even what no notice here comes to. -/
structure Rule where
  origin : Option (List Char)
  subject : Subject
  rank : Nat
deriving DecidableEq, Repr

inductive RuleFault where
  | badRule
  | badLevel
  | badPattern (fault : Pattern.Fault)
  /-- A part of the rule begins or ends inside a character. Nothing can go on then. -/
  | torn
deriving DecidableEq, Repr

def RuleFault.message : RuleFault → String
  | .badRule => "invalid filter directive"
  | .badLevel =>
    "error parsing level filter: expected one of \"off\", \"error\", \"warn\", \"info\", " ++
      "\"debug\", \"trace\", or a number 0-5"
  | .badPattern fault => "invalid field filter: " ++ fault.message
  | .torn => "byte index is not a char boundary"

namespace Rule

/-- Levels by name, from the one that shows nothing. -/
def levels : List String := ["off", "error", "warn", "info", "debug", "trace"]

def fullRank : Nat := 5

def smallAscii (c : Char) : Char := if c.isUpper then .ofNat (c.toNat + 32) else c

/-- The rank of a level: its number, or its name in letters of any case. -/
def rank? (cs : List Char) : Option Nat :=
  match Text.readInteger 0 18446744073709551615 cs with
  | .ok n => if n.val ≤ fullRank then some n.val.toNat else none
  | .error _ => levels.findIdx? (·.toList == cs.map smallAscii)

def mayStart (c : Char) : Bool := ['-', ':', '_'].contains c || Text.isWordChar c

/-- A decimal number behind its sign: digits with a point among them or without one, and an
exponent; or a word for what is not finite. -/
def isNumber (cs : List Char) : Bool :=
  ["inf", "infinity", "nan"].contains (String.ofList (cs.map smallAscii)) ||
    (let whole := cs.takeWhile Char.isDigit
    let (fraction, rest) := match cs.dropWhile Char.isDigit with
      | '.' :: rest => (rest.takeWhile Char.isDigit, rest.dropWhile Char.isDigit)
      | rest => ([], rest)
    !(whole.isEmpty && fraction.isEmpty) &&
      match rest with
      | [] => true
      | e :: rest =>
        let digits := match rest with
          | '-' :: rest => rest
          | '+' :: rest => rest
          | _ => rest
        (e = 'e' || e = 'E') && !digits.isEmpty && digits.all Char.isDigit)

def checkValue (cs : List Char) : Except RuleFault Unit :=
  match cs with
  | '+' :: rest => if isNumber rest then .ok () else .error (.badPattern .malformed)
  | _ => (Pattern.check cs).mapError .badPattern

def readField (cs : List Char) : Except RuleFault Subject :=
  if cs.isEmpty then .error .badRule
  else match cs.dropWhile (· != '=') with
    | [] => .ok (.field cs)
    | _ :: value => do
      checkValue (value.takeWhile (· != '='))
      return .task

/-- The part of a rule between two positions, which are counted in bytes. -/
def part (written : List Char) (first last : Nat) : Except RuleFault (List Char) :=
  match Utf8.part? first last written with
  | some cs => .ok cs
  | none => .error .torn

/-- The level at the end of a rule; none means all levels. -/
def readLevel (written : List Char) (first : Nat) : Except RuleFault Nat := do
  let level ← part written first (Utf8.size written)
  if level.isEmpty then return fullRank
  else match rank? level with
    | some rank => return rank
    | none => throw .badLevel

/-- The level behind a bracket that has been closed. -/
def readTail (written : List Char) (origin : Option (List Char)) (subject : Subject)
    (place : Nat) : List Char → Except RuleFault Rule
  | [] => .ok ⟨origin, subject, fullRank⟩
  | '=' :: _ => do return ⟨origin, subject, ← readLevel written (place + 1)⟩
  | _ => .error .badRule

/-- What stands in a bracket: the name of a task, then a field in braces. Each may be left out. -/
def readBracket (written : List Char) (origin : Option (List Char)) (place : Nat)
    (cs : List Char) : Except RuleFault Rule := do
  let name := cs.takeWhile fun c => c != ']' && c != '\x7b'
  let stop := place + Utf8.size name
  match cs.dropWhile fun c => c != ']' && c != '\x7b' with
  | [] => throw .badRule
  | c :: rest =>
    let task ← part written place stop
    if c = ']' then readTail written origin .task (stop + 1) rest
    else
      let field := rest.takeWhile (· != '\x7d')
      let close := stop + 1 + Utf8.size field
      match rest.dropWhile (· != '\x7d') with
      | [] => throw .badRule
      | _ :: rest =>
        let subject ← readField (← part written (stop + 1) close)
        match rest with
        | ']' :: rest =>
          readTail written origin (if task.isEmpty then subject else .task) (close + 2) rest
        | _ => throw .badRule

/-- Reads one rule. The places where its parts meet are looked for without the white space at both
ends, but the parts are taken from the rule as it is written. What is no level is the beginning of
a name, all of whose notices are shown. -/
def read (written : List Char) : Except RuleFault Rule := do
  match Text.trimChars written with
  | [] => throw .badRule
  | '[' :: rest => readBracket written none 1 rest
  | c :: cs =>
    if !mayStart c then throw .badRule
    let name := c :: cs.takeWhile fun c => c != '=' && c != '['
    let stop := Utf8.size name
    match cs.dropWhile fun c => c != '=' && c != '[' with
    | [] =>
      match rank? written with
      | some rank => return ⟨none, .everything, rank⟩
      | none => return ⟨some written, .everything, fullRank⟩
    | c :: rest =>
      let origin ← part written 0 stop
      if c = '=' then return ⟨some origin, .everything, ← readLevel written (stop + 1)⟩
      else readBracket written (some origin) (stop + 1) rest

def concerns (r : Rule) (n : Notice) : Bool :=
  r.origin.all (·.isPrefixOf n.origin.name.toList) &&
    match r.subject with
    | .everything => true
    | .field name => n.fieldNames.contains (String.ofList name)
    | .task => false

/-- How much a rule says about what it is about: the length of the name, then the field. Of two
rules that are about one notice the greater decides. -/
def weight (r : Rule) : List Nat :=
  (match r.origin with
    | some origin => Utf8.size origin + 1
    | none => 0) ::
  match r.subject with
    | .field name => name.map Char.toNat
    | _ => []

end Rule

end DropLedger
