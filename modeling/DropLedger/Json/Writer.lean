import DropLedger.Json.Value

/-! Writing JSON: on one line without any white space, or laid out over lines. -/
namespace DropLedger.Json

/-- Only quotes, backslashes and control characters below the space are escaped. -/
def escapeChar (c : Char) : List Char :=
  if c = '"' then ['\\', '"']
  else if c = '\\' then ['\\', '\\']
  else if c = '\x08' then ['\\', 'b']
  else if c = '\x0c' then ['\\', 'f']
  else if c = '\n' then ['\\', 'n']
  else if c = '\r' then ['\\', 'r']
  else if c = '\t' then ['\\', 't']
  else if c < ' ' then
    ['\\', 'u', '0', '0', Nat.digitChar (c.toNat / 16), Nat.digitChar (c.toNat % 16)]
  else [c]

def writeText (s : String) : List Char := '"' :: s.toList.flatMap escapeChar ++ ['"']

def writeNumber : Number → List Char
  | .whole n => Text.integer n
  | .real x => (doubleFormat.write x).toList

/-- What is written of a value that holds no other value. -/
def writeLeaf : Value → List Char
  | .bool true => ['t', 'r', 'u', 'e']
  | .bool false => ['f', 'a', 'l', 's', 'e']
  | .number n => writeNumber n
  | .text s => writeText s
  | _ => ['n', 'u', 'l', 'l']

mutual

/-- One line, no white space. -/
def Value.compact : Value → List Char
  | .list items => '[' :: compactItems items ++ [']']
  | .object entries => '{' :: compactEntries entries ++ ['}']
  | v => writeLeaf v

def compactItems : List Value → List Char
  | [] => []
  | [v] => v.compact
  | v :: vs => v.compact ++ ',' :: compactItems vs

def compactEntries : List (String × Value) → List Char
  | [] => []
  | [(k, v)] => writeText k ++ ':' :: v.compact
  | (k, v) :: es => writeText k ++ ':' :: v.compact ++ ',' :: compactEntries es

end

def newLine (level : Nat) : List Char := '\n' :: List.replicate (2 * level) ' '

mutual

/-- Each item and each entry on a line of its own. -/
def Value.pretty (level : Nat) : Value → List Char
  | .list [] => ['[', ']']
  | .list (v :: vs) =>
    '[' :: prettyItems (level + 1) (v :: vs) ++ newLine level ++ [']']
  | .object [] => ['{', '}']
  | .object (e :: es) =>
    '{' :: prettyEntries (level + 1) (e :: es) ++ newLine level ++ ['}']
  | v => writeLeaf v

def prettyItems (level : Nat) : List Value → List Char
  | [] => []
  | [v] => newLine level ++ v.pretty level
  | v :: vs => newLine level ++ v.pretty level ++ ',' :: prettyItems level vs

def prettyEntries (level : Nat) : List (String × Value) → List Char
  | [] => []
  | [(k, v)] => newLine level ++ writeText k ++ ':' :: ' ' :: v.pretty level
  | (k, v) :: es =>
    newLine level ++ writeText k ++ ':' :: ' ' :: v.pretty level ++ ',' :: prettyEntries level es

end

end DropLedger.Json
