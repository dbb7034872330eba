import DropLedger.Json.Value

/-! Decoding JSON into typed values, in two ways: straight from the text, which stops at the first
fault and skips what no field asks for, and from a value that was read before. -/
namespace DropLedger.Json

structure Decoder (α : Type) where
  read : Reader α
  ofValue : Value → Option α

namespace Decoder

def map (f : α → β) (d : Decoder α) : Decoder β where
  read cs := do
    let (a, rest) ← d.read cs
    return (f a, rest)
  ofValue v := (d.ofValue v).map f

end Decoder

/-- The fault of a value that is not of the kind expected: its own, if it is not even a value.
Of a list or an object only the opening sign is looked at. -/
def mismatch (expected : String) : List Char → Fault
  | [] => .endInValue
  | 'n' :: rest => kind (readWord ['u', 'l', 'l'] rest) fun _ => .null
  | 't' :: rest => kind (readWord ['r', 'u', 'e'] rest) fun _ => .bool true
  | 'f' :: rest => kind (readWord ['a', 'l', 's', 'e'] rest) fun _ => .bool false
  | '"' :: rest => kind (readText rest) fun p => .text p.1
  | '-' :: rest => kind (readNumber true rest) fun p => p.1.found
  | '[' :: _ => .wrongKind .list expected
  | '{' :: _ => .wrongKind .object expected
  | c :: rest =>
    if c.isDigit then kind (readNumber false (c :: rest)) fun p => p.1.found else .expectedValue
where
  kind {α : Type} (r : Except Fault α) (found : α → Found) : Fault :=
    match r with
    | .error f => f
    | .ok a => .wrongKind (found a) expected

namespace Decoder

/-- A number that has to be an integer within the limits. -/
def fit (lo hi : Int) (expected : String) : Number → Except Fault (Bounded lo hi)
  | .whole n =>
    match Bounded.ofInt? lo hi n with
    | some b => .ok b
    | none => .error (.wrongInteger n expected)
  | .real x => .error (.wrongKind (.real x) expected)

def integer (lo hi : Int) (expected : String) : Decoder (Bounded lo hi) where
  read cs :=
    match skipSpace cs with
    | '-' :: rest => do
      let (n, rest) ← readNumber true rest
      return (← fit lo hi expected n, rest)
    | c :: rest =>
      if c.isDigit then do
        let (n, rest) ← readNumber false (c :: rest)
        return (← fit lo hi expected n, rest)
      else .error (mismatch expected (c :: rest))
    | [] => .error .endInValue
  ofValue
    | .number (.whole n) => Bounded.ofInt? lo hi n
    | _ => none

def text (expected : String) : Decoder String where
  read cs :=
    match skipSpace cs with
    | '"' :: rest => readText rest
    | cs => .error (mismatch expected cs)
  ofValue
    | .text s => some s
    | _ => none

def optional (d : Decoder α) : Decoder (Option α) where
  read cs :=
    match skipSpace cs with
    | 'n' :: rest => do return (none, ← readWord ['u', 'l', 'l'] rest)
    | cs => do
      let (a, rest) ← d.read cs
      return (some a, rest)
  ofValue
    | .null => some none
    | v => (d.ofValue v).map some

def list (d : Decoder α) : Decoder (List α) where
  read cs :=
    match skipSpace cs with
    | '[' :: rest => readItems readFaults d.read rest
    | cs => .error (mismatch "a sequence" cs)
  ofValue
    | .list vs => vs.mapM d.ofValue
    | _ => none

end Decoder

/-- One field of a layout. `σ` holds the fields read so far. A field that is not required may be
missing. -/
structure Field (σ : Type) where
  name : String
  required : Bool
  given : σ → Bool
  decoder : Decoder (σ → σ)

/-- A field kept in one place of `σ`. -/
def Field.of (name : String) (required : Bool) (d : Decoder α) (get : σ → Option α)
    (set : σ → α → σ) : Field σ :=
  ⟨name, required, fun s => (get s).isSome, d.map fun a s => set s a⟩

/-- How a type is laid out: as an object with these fields in any order, or as a list of them in
this order. `finish` names the first field that is missing. -/
structure Layout (σ α : Type) where
  title : String
  start : σ
  fields : List (Field σ)
  finish : σ → Except String α

namespace Layout

/-- The end of a list whose fields have all been read. -/
def closeRow (cs : List Char) : Except Fault (List Char) :=
  match skipSpace cs with
  | [] => .error .endInList
  | ']' :: rest => .ok rest
  | ',' :: rest =>
    match skipSpace rest with
    | ']' :: _ => .error .trailingComma
    | _ => .error .trailingText
  | _ => .error .trailingText

/-- Reads the fields from a list, after its opening bracket. `index` counts the fields passed, and
`first` says that no item has been read yet. -/
def readRow (expected : String) (index : Nat) (first : Bool) (s : σ) :
    List (Field σ) → Reader σ
  | [], cs => do return (s, ← closeRow cs)
  | field :: fields, cs =>
    match skipSpace cs with
    | [] => .error .endInList
    | ']' :: rest =>
      if field.required then .error (.wrongLength index expected)
      else readRow expected (index + 1) first s fields (']' :: rest)
    | c :: rest => do
      let (update, rest) ←
        if first then field.decoder.read (c :: rest)
        else if c = ',' then afterListComma readFaults field.decoder.read rest
        else .error .expectedListEnd
      readRow expected (index + 1) false (update s) fields rest

/-- Reads the entry of a key. A key that is no field is skipped with its value. -/
def readEntry (fields : List (Field σ)) (s : σ) (key : String) (cs : List Char) :
    Except Fault (σ × List Char) :=
  match fields.find? (·.name == key) with
  | some field =>
    if field.given s then .error (.duplicateField key)
    else do
      let (update, rest) ← field.decoder.read (← readColon cs)
      return (update s, rest)
  | none => do
    let (_, rest) ← skipValue (← readColon cs)
    return (s, rest)

/-- The fields of a list read before. -/
def rowOfValues (s : σ) : List (Field σ) → List Value → Option σ
  | [], [] => some s
  | [], _ :: _ => none
  | field :: fields, [] => if field.required then none else rowOfValues s fields []
  | field :: fields, v :: vs => do
    let update ← field.decoder.ofValue v
    rowOfValues (update s) fields vs

/-- The entry of an object read before. -/
def entryOfValue (fields : List (Field σ)) (s : σ) (entry : String × Value) : Option σ :=
  match fields.find? (·.name == entry.1) with
  | some field =>
    if field.given s then none else (field.decoder.ofValue entry.2).map fun update => update s
  | none => some s

/-- Ends an object or a list: a field may be missing. -/
def close (l : Layout σ α) (s : σ) : Except Fault α :=
  match l.finish s with
  | .ok a => .ok a
  | .error name => .error (.missingField name)

def expected (l : Layout σ α) : String :=
  l.title ++ " with " ++ String.ofList (Text.natural l.fields.length) ++ " elements"

def decoder (l : Layout σ α) : Decoder α where
  read cs :=
    match skipSpace cs with
    | '[' :: rest => do
      let (s, rest) ← readRow l.expected 0 true l.start l.fields rest
      return (← l.close s, rest)
    | '{' :: rest => do
      let (s, rest) ← readEntries readFaults readText (readEntry l.fields) l.start rest
      return (← l.close s, rest)
    | cs => .error (mismatch l.title cs)
  ofValue
    | .list vs => do
      let s ← rowOfValues l.start l.fields vs
      (l.finish s).toOption
    | .object es => do
      let s ← es.foldlM (entryOfValue l.fields) l.start
      (l.finish s).toOption
    | _ => none

end Layout

/-- Decodes a whole text straight. -/
def decode (d : Decoder α) (cs : List Char) : Except Fault α := do
  let (a, rest) ← d.read cs
  finish rest
  return a

end DropLedger.Json
