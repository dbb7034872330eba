import DropLedger.Command.Filter.Pattern.Nesting
import DropLedger.Text.Blank
import DropLedger.Text.LetterTable

/-! Reading a pattern character by character. What a character means depends on the construct that
it stands in and on the options that are set there. -/
namespace DropLedger.Pattern

structure Options where
  /-- Whether sets and conditions are about the characters of all scripts. If not they are about
  ASCII, and a set that holds more is refused: it could be met inside a character. -/
  unicode : Bool := true
  /-- Whether white space is left out, and a hash sign with what follows it on its line. -/
  verbose : Bool := false
deriving DecidableEq, Repr

def Options.set (o : Options) (letters : List Char) : Options :=
  let given := letters.takeWhile (· != '-')
  let taken := letters.dropWhile (· != '-')
  { unicode := (o.unicode || given.contains 'u') && !taken.contains 'u'
    verbose := (o.verbose || given.contains 'x') && !taken.contains 'x' }

/-- Where a character or a set of characters is wanted: outside of brackets, between them, or there
as the end of a range. -/
inductive Place where
  | outside
  | inside
  | rangeEnd (low : Char)
deriving DecidableEq, Repr

inductive Construct where
  /-- The pattern itself, outside of brackets. -/
  | row
  /-- A group of which the parenthesis has been read. -/
  | group
  /-- The letters of a group between its question mark and its colon, the last one first. -/
  | options (seen : List Char)
  /-- The name of a group, the last character first. -/
  | groupName (name : List Char)
  /-- What follows a backslash. -/
  | escape (place : Place)
  /-- The digits of a character's number. -/
  | number (missing : Nat) (value : Nat) (place : Place)
  /-- The two digits of a byte. -/
  | byte (high : Option Nat) (place : Place)
  /-- The letter of a class of characters. -/
  | category (place : Place)
  /-- The beginning of a bracket, before its first character that counts. -/
  | bracketStart (first : Bool) (hyphens : Bool)
  /-- A bracket, where no range can go on. -/
  | bracket
  /-- A bracket behind a character or a set. A range may begin with the character. -/
  | rangeStart (low : Option Char)
  | rangeEnd (low : Char)
deriving DecidableEq, Repr

/-- Whether white space may stand before the next character, if it may stand anywhere. -/
def Construct.spaced : Construct → Bool
  | .options _ => false
  | .groupName _ => false
  | .escape _ => false
  | _ => true

structure Reading where
  construct : Construct := .row
  options : Options := {}
  scope : Scope := {}
  /-- What the groups and brackets that are open stand in, the innermost first, with the options
  that are set there. -/
  outer : List (Scope × Options) := []
  brackets : Nat := 0
  names : List (List Char) := []
  /-- Characters that have been read ahead. -/
  ahead : Nat := 0
  /-- Whether the line goes on with nothing that counts. -/
  comment : Bool := false
  /-- Whether the pattern asks where words of all scripts begin or end. -/
  boundary : Bool := false

namespace Reading

def into (r : Reading) (c : Construct) : Reading := { r with construct := c }

def part (r : Reading) (c : Construct) : Reading :=
  { r with construct := c, scope := r.scope.push 0 }

def enter (r : Reading) (c : Construct) : Reading :=
  { r with construct := c, scope := {}, outer := (r.scope, r.options) :: r.outer }

/-- A group or a bracket has been closed. What is set in it ends with it. -/
def leave (r : Reading) (c : Construct) : Option Reading :=
  match r.outer with
  | [] => none
  | (scope, options) :: outer =>
    some { r with construct := c, options, scope := scope.push (r.scope.depth + 1), outer }

/-- A character has been read where one was wanted. `raw` says that it was given as a byte, which
does not stand for a character beyond ASCII if patterns are about ASCII. Brackets hold none at all
then. -/
def character (r : Reading) (raw : Bool) (c : Char) (place : Place) : Option Reading :=
  let strange := !r.options.unicode && 0x80 ≤ c.toNat
  match place with
  | .outside => if strange && raw then none else some (r.part .row)
  | .inside => if strange then none else some (r.part (.rangeStart (some c)))
  | .rangeEnd low => if strange || c < low then none else some (r.into .bracket)

/-- A set of characters has been read. No range ends or begins with one. The complement of a set of
ASCII characters holds more than those. -/
def set (r : Reading) (complement : Bool) (place : Place) : Option Reading :=
  if complement && !r.options.unicode then none
  else match place with
    | .outside => some (r.part .row)
    | .inside => some (r.part (.rangeStart none))
    | .rangeEnd _ => none

/-- A condition on the place in the text has been read. -/
def condition (r : Reading) (aboutWords : Bool) : Place → Option Reading
  | .outside =>
    some { r.part .row with boundary := r.boundary || (aboutWords && r.options.unicode) }
  | _ => none

/-- The character that an escaped letter stands for. -/
def control? : Char → Option Char
  | 'a' => some '\x07'
  | 'f' => some '\x0c'
  | 't' => some '\t'
  | 'n' => some '\n'
  | 'r' => some '\r'
  | 'v' => some '\x0b'
  | _ => none

/-- What follows a backslash: a number, a class, a condition, or a character that stands for itself
or for a control character. -/
def escaped (r : Reading) (place : Place) (c : Char) : Option Reading :=
  if c = 'x' then some (r.into (.byte none place))
  else if c = 'u' then some (r.into (.number 4 0 place))
  else if c = 'U' then some (r.into (.number 8 0 place))
  else if c = 'p' || c = 'P' then some (r.into (.category place))
  else if ['d', 's', 'w'].contains c then r.set false place
  else if ['D', 'S', 'W'].contains c then r.set true place
  else if c = 'A' || c = 'z' then r.condition false place
  else if ['b', 'B', '<', '>'].contains c then r.condition true place
  else match control? c with
    | some control => r.character false control place
    | none => if c.isAlphanum || 0x80 ≤ c.toNat then none else r.character false c place

def digit? (c : Char) : Option Nat :=
  if c.isDigit then some (c.toNat - '0'.toNat)
  else if 'a' ≤ c && c ≤ 'f' then some (c.toNat - 'a'.toNat + 10)
  else if 'A' ≤ c && c ≤ 'F' then some (c.toNat - 'A'.toNat + 10)
  else none

/-- The next digit of a byte. -/
def byteDigit (r : Reading) (high : Option Nat) (place : Place) (c : Char) : Option Reading := do
  let value ← digit? c
  match high with
  | none => return r.into (.byte (some value) place)
  | some high => r.character true (.ofNat (high * 16 + value)) place

/-- The next digit of a character's number. -/
def digit (r : Reading) (missing value : Nat) (place : Place) (c : Char) : Option Reading := do
  let value := value * 16 + (← digit? c)
  if missing ≤ 1 then
    if value.isValidChar then r.character false (.ofNat value) place else none
  else return r.into (.number (missing - 1) value place)

/-- The letters of the general categories. They are about characters. -/
def category (r : Reading) (place : Place) (c : Char) : Option Reading :=
  if r.options.unicode && "LMNPSZClmnpszc".toList.contains c then r.set false place else none

/-- One character outside of brackets. A question mark behind a sign of repetition belongs to it. -/
def inRow (r : Reading) (c : Char) (rest : List Char) : Option Reading :=
  if c = '\\' then some (r.into (.escape .outside))
  else if c = '[' then some { r.enter (.bracketStart true false) with brackets := 1 }
  else if c = '(' then some (r.into .group)
  else if c = ')' then r.leave .row
  else if c = '|' then some { r.into .row with scope := r.scope.bar }
  else if c = '?' || c = '*' || c = '+' then
    r.scope.row.repeatLast.map fun row =>
      { r.into .row with
        scope := { r.scope with row }
        ahead := if rest.head? == some '?' then 1 else 0 }
  else if c = '\x7b' then none
  else if c = '.' then r.set true .outside
  else r.character false c .outside

/-- The first character of a group: a question mark before options or a name, or else the beginning
of what it holds. Conditions on what stands before or behind are not admitted. -/
def openGroup (r : Reading) (c : Char) (rest : List Char) : Option Reading :=
  if c = '?' then
    match rest with
    | 'P' :: '<' :: _ => some { r.into (.groupName []) with ahead := 2 }
    | '<' :: '=' :: _ => none
    | '<' :: '!' :: _ => none
    | '<' :: _ => some { r.into (.groupName []) with ahead := 1 }
    | _ => some (r.into (.options []))
  else (r.enter .row).inRow c rest

def isOption (c : Char) : Bool := ['i', 'm', 's', 'U', 'u', 'R', 'x', '-'].contains c

/-- One option. Each may stand once, and a hyphen has to be followed by another. Options without a
colon are set for the rest of what they stand in. -/
def oneOption (r : Reading) (seen : List Char) (c : Char) : Option Reading :=
  let options := r.options.set seen.reverse
  if c = ':' then
    if seen.head? == some '-' then none else some { r.enter .row with options }
  else if c = ')' then
    if seen.isEmpty || seen.head? == some '-' then none
    else some { r.into .row with options, scope := { r.scope with row := r.scope.row.pushSetting } }
  else if isOption c && !seen.contains c then some (r.into (.options (c :: seen)))
  else none

/-- One character of a name. A name stands for one group only. -/
def nameChar (r : Reading) (name : List Char) (c : Char) : Option Reading :=
  if c = '>' then
    if name.isEmpty || r.names.contains name then none
    else some { r.enter .row with names := name :: r.names }
  else if c = '_' || Text.letters.has c then some (r.into (.groupName (c :: name)))
  else if !name.isEmpty && (c = '.' || c = '[' || c = ']' || Text.isWordChar c) then
    some (r.into (.groupName (c :: name)))
  else none

def classNames : List String :=
  ["alnum", "alpha", "ascii", "blank", "cntrl", "digit", "graph", "lower", "print", "punct",
    "space", "upper", "word", "xdigit"]

/-- Whether a class in brackets and colons, of which the first bracket has been read, is meant as
its complement, and how many characters of it are left. -/
def namedClass? (rest : List Char) : Option (Bool × Nat) :=
  match rest with
  | ':' :: rest =>
    let complement := rest.head? == some '^'
    let rest := if complement then rest.drop 1 else rest
    let name := rest.takeWhile (· != ':')
    match rest.dropWhile (· != ':') with
    | ':' :: ']' :: _ =>
      if classNames.contains (String.ofList name) then
        some (complement, (if complement then 1 else 0) + name.length + 3)
      else none
    | _ => none
  | _ => none

/-- One character in a bracket where no range can go on. -/
def item (r : Reading) (c : Char) (rest : List Char) : Option Reading :=
  if c = '[' then
    match namedClass? rest with
    | some (complement, length) =>
      if complement && !r.options.unicode then none
      else some { r.part .bracket with ahead := length }
    | none => some { r.enter (.bracketStart true false) with brackets := r.brackets + 1 }
  else if c = ']' then
    (r.leave (if r.brackets ≤ 1 then .row else .bracket)).map fun r =>
      { r with brackets := r.brackets - 1 }
  else if (c = '&' || c = '-' || c = '~') && rest.head? == some c then
    some { r.into .bracket with scope := r.scope.operator, ahead := 1 }
  else if c = '\\' then some (r.into (.escape .inside))
  else r.character false c .inside

/-- The next character that counts for a hyphen. Of a hash sign only the sign itself is left out. -/
def upcoming (r : Reading) (rest : List Char) : Option Char :=
  if r.options.verbose then
    match rest.dropWhile Text.isBlank with
    | '#' :: rest => (rest.dropWhile Text.isBlank).head?
    | rest => rest.head?
  else rest.head?

/-- One character in a bracket behind a character or a set. A hyphen makes a range unless it ends
the bracket or stands before another. -/
def behindItem (r : Reading) (low : Option Char) (c : Char) (rest : List Char) : Option Reading :=
  if c = '-' && r.upcoming rest != some ']' && r.upcoming rest != some '-' then
    low.map fun low => r.into (.rangeEnd low)
  else r.item c rest

/-- One character at the beginning of a bracket: a caret, hyphens and then a closing bracket may
stand there and do not end it. -/
def startBracket (r : Reading) (first hyphens : Bool) (c : Char) (rest : List Char) :
    Option Reading :=
  if c = '^' && first then
    if r.options.unicode then some (r.into (.bracketStart false false)) else none
  else if c = '-' then some (r.part (.bracketStart false true))
  else if c = ']' && !hyphens then some (r.part .bracket)
  else r.item c rest

/-- Reads one character; `rest` holds those behind it. -/
def step (r : Reading) (c : Char) (rest : List Char) : Option Reading :=
  if r.ahead ≠ 0 then some { r with ahead := r.ahead - 1 }
  else if r.comment then some { r with comment := c != '\n' }
  else if r.options.verbose && r.construct.spaced && Text.isBlank c then some r
  else if r.options.verbose && r.construct.spaced && c = '#' then some { r with comment := true }
  else match r.construct with
    | .row => r.inRow c rest
    | .group => r.openGroup c rest
    | .options seen => r.oneOption seen c
    | .groupName name => r.nameChar name c
    | .escape place => r.escaped place c
    | .number missing value place => r.digit missing value place c
    | .byte high place => r.byteDigit high place c
    | .category place => r.category place c
    | .bracketStart first hyphens => r.startBracket first hyphens c rest
    | .bracket => r.item c rest
    | .rangeStart low => r.behindItem low c rest
    | .rangeEnd low =>
      if c = '\\' then some (r.into (.escape (.rangeEnd low)))
      else r.character false c (.rangeEnd low)

def run (r : Reading) : List Char → Option Reading
  | [] => some r
  | c :: rest => do (← r.step c rest).run rest

def complete (r : Reading) : Bool :=
  r.construct = .row && r.outer.isEmpty && r.scope.depth ≤ depthLimit

end Reading

end DropLedger.Pattern
