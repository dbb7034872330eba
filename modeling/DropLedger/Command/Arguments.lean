import DropLedger.Command.DropArgument
import DropLedger.Disk.Path
import DropLedger.Text.Terminal

/-! The words of a command line. Options for all commands stand before the name of the command, its
own options and the entity after it. -/
namespace DropLedger

/-- Options, all of which take a value. -/
inductive Flag where
  | root
  | player
  | settings
  | id
  | level
  | killCount
  | drop
deriving DecidableEq, Repr

namespace Flag

def name : Flag → String
  | .root => "root"
  | .player => "player"
  | .settings => "settings"
  | .id => "id"
  | .level => "level"
  | .killCount => "kill-count"
  | .drop => "drop"

def shown : Flag → String
  | .root => "--root <ROOT>"
  | .player => "--player <PLAYER>"
  | .settings => "--settings <SETTINGS>"
  | .id => "--id <ID>"
  | .level => "--level <LEVEL>"
  | .killCount => "--kill-count <KILL_COUNT>"
  | .drop => "--drop <DROPS>"

/-- Whether the value may begin with a hyphen. Whatever follows such an option is its value. -/
def takesHyphens : Flag → Bool
  | .id | .level | .killCount => true
  | _ => false

end Flag

inductive Verb where
  | entities
  | show
  | consolidate
  | summary
  | record
  | amend
  | delete
  | migrate
deriving DecidableEq, Repr

namespace Verb

def name : Verb → String
  | .entities => "entities"
  | .show => "show"
  | .consolidate => "consolidate"
  | .summary => "summary"
  | .record => "record"
  | .amend => "amend"
  | .delete => "delete"
  | .migrate => "migrate"

def all : List Verb :=
  [.entities, .show, .consolidate, .summary, .record, .amend, .delete, .migrate]

def named? (word : Bytes) : Option Verb := all.find? fun v => Utf8.ofString v.name == word

/-- Besides the verbs, the word that asks for help names a command. -/
def namesCommand (word : Bytes) : Bool :=
  (named? word).isSome || word == Utf8.ofString "help"

def flags : Verb → List Flag
  | .record => [.id, .level, .killCount, .drop]
  | .amend => [.drop]
  | _ => []

def takesEntity : Verb → Bool
  | .entities => false
  | _ => true

end Verb

inductive ValueFault where
  | integer (fault : Text.IntegerFault)
  | outside (n : Int)
  | drop (fault : DropFault)
deriving DecidableEq, Repr

def ValueFault.message : ValueFault → String
  | .integer fault => fault.message
  | .outside n => String.ofList (Text.integer n) ++ " is not in -2147483648..=2147483647"
  | .drop fault => fault.message

inductive UsageFault where
  | noArguments
  | noCommand
  | unknownCommand (word : String)
  | unexpected (word : String)
  | valueNotTaken (flag value : String)
  | noValue (flag : Flag)
  | repeated (flag : Flag)
  | badValue (flag : Flag) (value : String) (fault : ValueFault)
  | notText
  | incomplete
deriving DecidableEq, Repr

def about : String := "Inspect and edit per-boss loot logs"

def programName : String := "loot_logger"

def inQuotes (word : String) : String := "'" ++ Text.visible word ++ "'"

def UsageFault.message : UsageFault → String
  | .noArguments => about
  | .noCommand =>
    "error: " ++ inQuotes programName ++ " requires a subcommand but one was not provided"
  | .unknownCommand word => "error: unrecognized subcommand " ++ inQuotes word
  | .unexpected word => "error: unexpected argument " ++ inQuotes word ++ " found"
  | .valueNotTaken flag value =>
    "error: unexpected value " ++ inQuotes value ++ " for " ++ inQuotes flag ++
      " found; no more were expected"
  | .noValue flag =>
    "error: a value is required for " ++ inQuotes flag.shown ++ " but none was supplied"
  | .repeated flag =>
    "error: the argument " ++ inQuotes flag.shown ++ " cannot be used multiple times"
  | .badValue flag value fault =>
    "error: invalid value " ++ inQuotes value ++ " for " ++ inQuotes flag.shown ++ ": " ++
      fault.message
  | .notText => "error: invalid UTF-8 was detected in one or more arguments"
  | .incomplete => "error: the following required arguments were not provided:"

inductive Stop where
  | help
  | version
  | refused (fault : UsageFault)
deriving DecidableEq, Repr

structure Given where
  root : Option Path := none
  player : Option String := none
  settings : Option Path := none
  id : Option Signed32 := none
  level : Option Signed32 := none
  killCount : Option Signed32 := none
  drops : List Drop := []
  entity : Option String := none

namespace Given

def needText (word : Bytes) : Except UsageFault String :=
  match Utf8.toString? word with
  | some s => .ok s
  | none => .error .notText

def needPath (flag : Flag) (word : Bytes) : Except UsageFault Path :=
  if word.isEmpty then .error (.noValue flag) else .ok ⟨word⟩

/-- A number is read with 64 bits before it is held against the limits. -/
def needNumber (flag : Flag) (word : Bytes) : Except UsageFault Signed32 := do
  let value ← needText word
  match Text.readInteger (-9223372036854775808) 9223372036854775807 value.toList with
  | .error fault => throw (.badValue flag value (.integer fault))
  | .ok n =>
    match Bounded.ofInt? _ _ n.val with
    | some b => return b
    | none => throw (.badValue flag value (.outside n.val))

def needDrop (word : Bytes) : Except UsageFault Drop := do
  let value ← needText word
  match Drop.ofArgument value.toList with
  | .error fault => throw (.badValue .drop value (.drop fault))
  | .ok d => return d

def once (flag : Flag) (old : Option α) (new : Except UsageFault α) :
    Except UsageFault (Option α) :=
  if old.isSome then .error (.repeated flag) else new.map some

/-- Takes the value of an option. Only drops may be given more than once. -/
def take (g : Given) (flag : Flag) (word : Bytes) : Except UsageFault Given :=
  match flag with
  | .root => do return { g with root := ← once flag g.root (needPath flag word) }
  | .player => do return { g with player := ← once flag g.player (needText word) }
  | .settings => do return { g with settings := ← once flag g.settings (needPath flag word) }
  | .id => do return { g with id := ← once flag g.id (needNumber flag word) }
  | .level => do return { g with level := ← once flag g.level (needNumber flag word) }
  | .killCount => do
    return { g with killCount := ← once flag g.killCount (needNumber flag word) }
  | .drop => do return { g with drops := g.drops ++ [← needDrop word] }

end Given

/-- What has been read but not yet looked at. It is looked at when the next option or entity
comes, or at the end; a fault found before then goes first. -/
inductive Pending where
  | nothing
  | flag (flag : Flag)
  | value (flag : Flag) (word : Bytes)
  | entity (word : Bytes)

/-- How far the words of one level have been read. -/
structure Progress where
  given : Given := {}
  pending : Pending := .nothing
  hasEntity : Bool := false
  /-- After two hyphens alone no word is an option. -/
  plainOnly : Bool := false

namespace Progress

def settle (p : Progress) : Except UsageFault Progress :=
  match p.pending with
  | .nothing => .ok p
  | .flag flag => .error (.noValue flag)
  | .value flag word => do
    return { p with given := ← p.given.take flag word, pending := .nothing }
  | .entity word => do
    let entity ← Given.needText word
    return { p with given := { p.given with entity := some entity }, pending := .nothing }

/-- The option whose value comes next. -/
def awaiting (p : Progress) : Option Flag :=
  match p.pending with
  | .flag flag => some flag
  | _ => none

def awaitsHyphens (p : Progress) : Bool := p.awaiting.any Flag.takesHyphens

end Progress

inductive Word where
  | plain
  | twoHyphens
  | long (name : Bytes) (value : Option Bytes)
  | short (letters : Bytes)

def hyphen : UInt8 := 0x2D

def equalsSign : UInt8 := 0x3D

/-- Cuts a word at its first equals sign. -/
def cutEquals : Bytes → Bytes × Option Bytes
  | [] => ([], none)
  | b :: bs =>
    if b = equalsSign then ([], some bs)
    else let (name, value) := cutEquals bs; (b :: name, value)

/-- A single hyphen is a plain word. -/
def Word.of : Bytes → Word
  | [0x2D, 0x2D] => .twoHyphens
  | 0x2D :: 0x2D :: rest => let (name, value) := cutEquals rest; .long name value
  | 0x2D :: b :: rest => .short (b :: rest)
  | _ => .plain

/-- What one level of the command line admits: its options, an entity, and whether it is the level
on which commands are named. -/
structure Grammar where
  flags : List Flag
  entity : Bool
  top : Bool

namespace Grammar

def main : Grammar := ⟨[.root, .player, .settings], false, true⟩

def ofVerb (v : Verb) : Grammar := ⟨v.flags, v.takesEntity, false⟩

def flag? (g : Grammar) (name : Bytes) : Option Flag :=
  g.flags.find? fun f => Utf8.ofString f.name == name

def long (g : Grammar) (p : Progress) (name : Bytes) (value : Option Bytes) :
    Except Stop Progress :=
  match g.flag? name with
  | some flag =>
    match p.settle with
    | .error fault => .error (.refused fault)
    | .ok p =>
      match value with
      | none => .ok { p with pending := .flag flag }
      | some word =>
        match p.given.take flag word with
        | .ok given => .ok { p with given }
        | .error fault => .error (.refused fault)
  | none =>
    let stop? : Option Stop :=
      if name == Utf8.ofString "help" then some .help
      else if g.top && name == Utf8.ofString "version" then some .version
      else none
    match stop? with
    | none => .error (.refused (.unexpected ("--" ++ Utf8.lossy name)))
    | some stop =>
      match value with
      | some word => .error (.refused (.valueNotTaken ("--" ++ Utf8.lossy name) (Utf8.lossy word)))
      | none =>
        match p.settle with
        | .error fault => .error (.refused fault)
        | .ok _ => .error stop

/-- Letters behind one hyphen. None of them takes a value, and the first decides. -/
def short (g : Grammar) (p : Progress) (letters : Bytes) : Stop :=
  let stop? : Option Stop :=
    if letters.head? == some 0x68 then some .help
    else if g.top && letters.head? == some 0x56 then some .version
    else none
  match stop? with
  | some stop =>
    match p.settle with
    | .error fault => .refused fault
    | .ok _ => stop
  | none =>
    match Utf8.scan letters with
    | .char c :: _ => .refused (.unexpected (String.ofList ['-', c]))
    | _ => .refused (.unexpected ("-" ++ Utf8.lossy letters))

/-- A word that is neither an option nor the value of one. -/
def plain (g : Grammar) (p : Progress) (word : Bytes) : Except Stop Progress :=
  if g.entity && !p.hasEntity then
    match p.settle with
    | .error fault => .error (.refused fault)
    | .ok p => .ok { p with pending := .entity word, hasEntity := true }
  else if g.top && !(p.plainOnly && Verb.namesCommand word) then
    .error (.refused (.unknownCommand (Utf8.lossy word)))
  else .error (.refused (.unexpected (Utf8.lossy word)))

/-- One word that does not name a command. -/
def step (g : Grammar) (p : Progress) (word : Bytes) : Except Stop Progress :=
  if p.plainOnly then g.plain p word
  else
    let asValue : Except Stop Progress :=
      match p.awaiting with
      | some flag => .ok { p with pending := .value flag word }
      | none => g.plain p word
    if p.awaitsHyphens then asValue
    else match Word.of word with
      | .plain => asValue
      | .twoHyphens => .ok { p with plainOnly := true }
      | .long name value => g.long p name value
      | .short letters => .error (g.short p letters)

/-- Whether the next word is looked at as the name of a command. -/
def admitsVerb (g : Grammar) (p : Progress) : Bool :=
  g.top && !p.plainOnly && p.awaiting.isNone

/-- Reads words up to the name of a command, which is left with those after it. -/
def run (g : Grammar) (p : Progress) : List Bytes → Except Stop (Progress × List Bytes)
  | [] => .ok (p, [])
  | word :: words =>
    if g.admitsVerb p && Verb.namesCommand word then
      .ok (p, word :: words)
    else
      match g.step p word with
      | .ok p => g.run p words
      | .error stop => .error stop

/-- Reads all words, and looks at what is pending then. -/
def finish (p : Progress) : Except Stop Given :=
  match p.settle with
  | .ok p => .ok p.given
  | .error fault => .error (.refused fault)

end Grammar

inductive Command where
  | entities
  | show (entity : String)
  | consolidate (entity : Option String)
  | summary (entity : String)
  | record (kill : Kill)
  | amend (entity : String) (drops : List Drop)
  | delete (entity : String)
  | migrate (entity : String)
deriving DecidableEq, Repr

/-- The command of a verb. An entity may only be left out to consolidate all of them, and to amend
takes a drop. -/
def Verb.command (g : Given) : Verb → Except UsageFault Command
  | .entities => .ok .entities
  | .show => do return .show (← entity)
  | .consolidate => .ok (.consolidate g.entity)
  | .summary => do return .summary (← entity)
  | .record => do
    return .record ⟨g.id.getD unknown, ← entity, g.level.getD unknown, g.killCount.getD unknown,
      g.drops⟩
  | .amend => do
    let entity ← entity
    if g.drops.isEmpty then throw .incomplete
    return .amend entity g.drops
  | .delete => do return .delete (← entity)
  | .migrate => do return .migrate (← entity)
where
  entity : Except UsageFault String :=
    match g.entity with
    | some e => .ok e
    | none => .error .incomplete

structure Invocation where
  root : Option Path
  player : Option String
  settings : Option Path
  command : Command
deriving DecidableEq, Repr

namespace Invocation

def readCommand (v : Verb) (words : List Bytes) : Except Stop Command := do
  let (p, _) ← (Grammar.ofVerb v).run {} words
  let given ← Grammar.finish p
  match v.command given with
  | .ok command => return command
  | .error fault => throw (.refused fault)

/-- The words after `help`: nothing, or the name of one command. -/
def readHelp : List Bytes → Stop
  | [] => .help
  | word :: words =>
    if Verb.namesCommand word then
      match words with
      | [] => .help
      | word :: _ => .refused (.unknownCommand (Utf8.lossy word))
    else .refused (.unknownCommand (Utf8.lossy word))

/-- Reads a command line. What is wrong behind the name of a command goes before what is still
pending in front of it. -/
def read (words : List Bytes) : Except Stop Invocation := do
  let (p, rest) ← Grammar.main.run {} words
  match rest with
  | [] =>
    let given ← Grammar.finish p
    let bare := given.root.isNone && given.player.isNone && given.settings.isNone
    throw (.refused (if bare then .noArguments else .noCommand))
  | word :: rest =>
    match Verb.named? word with
    | none => throw (readHelp rest)
    | some verb =>
      let command ← readCommand verb rest
      let given ← Grammar.finish p
      return ⟨given.root, given.player, given.settings, command⟩

end Invocation

end DropLedger
