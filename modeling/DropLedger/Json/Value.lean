import DropLedger.Json.Number
import DropLedger.Json.Sequence

/-! JSON values, reading one, and skipping one. -/
namespace DropLedger.Json

/-- Objects keep the order of their entries and repeated keys. -/
inductive Value where
  | null
  | bool (b : Bool)
  | number (n : Number)
  | text (s : String)
  | list (items : List Value)
  | object (entries : List (String × Value))

/-- Lists and objects may be nested this deep. -/
def maxDepth : Nat := 127

/-- Reads a value in which at most `depth` lists and objects are nested. -/
def readValue (depth : Nat) (cs : List Char) : Except Fault (Value × List Char) :=
  match skipSpace cs with
  | [] => .error .endInValue
  | 'n' :: rest => do return (.null, ← readWord ['u', 'l', 'l'] rest)
  | 't' :: rest => do return (.bool true, ← readWord ['r', 'u', 'e'] rest)
  | 'f' :: rest => do return (.bool false, ← readWord ['a', 'l', 's', 'e'] rest)
  | '"' :: rest => do
    let (s, rest) ← readText rest
    return (.text s, rest)
  | '-' :: rest => do
    let (n, rest) ← readNumber true rest
    return (.number n, rest)
  | '[' :: rest =>
    match depth with
    | 0 => .error .tooDeep
    | depth + 1 => do
      let (items, rest) ← readItems readFaults (readValue depth) rest
      return (.list items, rest)
  | '{' :: rest =>
    match depth with
    | 0 => .error .tooDeep
    | depth + 1 => do
      let entry (es : List (String × Value)) (k : String) (cs : List Char) := do
        let (v, rest) ← readValue depth (← readColon cs)
        return ((k, v) :: es, rest)
      let (es, rest) ← readEntries readFaults readText entry [] rest
      return (.object es.reverse, rest)
  | c :: rest =>
    if c.isDigit then do
      let (n, rest) ← readNumber false (c :: rest)
      return (.number n, rest)
    else .error .expectedValue
termination_by structural depth

/-- Skips a value of any kind; only its form counts. `bound` is a text with more characters than
lists and objects are nested. -/
def skipNested (bound : List Char) (cs : List Char) : Except Fault (Unit × List Char) :=
  match skipSpace cs with
  | [] => .error .endInValue
  | 'n' :: rest => do return ((), ← readWord ['u', 'l', 'l'] rest)
  | 't' :: rest => do return ((), ← readWord ['r', 'u', 'e'] rest)
  | 'f' :: rest => do return ((), ← readWord ['a', 'l', 's', 'e'] rest)
  | '"' :: rest => skipText rest
  | '-' :: rest => skipNumber rest
  | '[' :: rest =>
    match bound with
    | [] => .error .tooDeep
    | _ :: bound => do
      let (_, rest) ← readItems skipListFaults (skipNested bound) rest
      return ((), rest)
  | '{' :: rest =>
    match bound with
    | [] => .error .tooDeep
    | _ :: bound =>
      let entry (_ : Unit) (_ : Unit) (cs : List Char) := do skipNested bound (← readColon cs)
      readEntries skipObjectFaults skipText entry () rest
  | c :: rest => if c.isDigit then skipNumber (c :: rest) else .error .expectedValue
termination_by structural bound

/-- Skips a value. No text nests deeper than it is long, so there is no limit on the nesting. -/
def skipValue (cs : List Char) : Except Fault (Unit × List Char) := skipNested cs cs

end DropLedger.Json
