import DropLedger.Text.Quoted
import DropLedger.Text.Shortest

/-! What can be wrong with a JSON text, as causes. The wording is in one place. -/
namespace DropLedger.Json

/-- What stood where another kind of value was due. -/
inductive Found where
  | null
  | bool (b : Bool)
  | integer (n : Int)
  | real (x : Float)
  | text (s : String)
  | list
  | object
deriving DecidableEq

inductive Fault where
  | endInValue
  | endInList
  | endInObject
  | endInText
  | expectedValue
  | expectedWord
  | expectedColon
  | expectedListEnd
  | expectedObjectEnd
  | trailingComma
  | trailingText
  | keyNotText
  | badNumber
  | numberRange
  | badEscape
  | controlCharacter
  | loneSurrogate
  | cutSurrogate
  | tooDeep
  | missingField (name : String)
  | duplicateField (name : String)
  | wrongKind (found : Found) (expected : String)
  | wrongInteger (n : Int) (expected : String)
  | wrongLength (length : Nat) (expected : String)
  | noVariant
deriving DecidableEq

/-- The text ended too early, it is not JSON, or it is JSON that does not fit. -/
inductive Category where
  | ended
  | malformed
  | unfit
deriving DecidableEq, Repr

def Fault.category : Fault → Category
  | .endInValue | .endInList | .endInObject | .endInText => .ended
  | .missingField _ | .duplicateField _ | .wrongKind _ _ | .wrongInteger _ _ | .wrongLength _ _
  | .noVariant => .unfit
  | _ => .malformed

/-- Sixteen digits before the point and four zeros after it are written out. -/
def doubleFormat : Text.DoubleFormat := ⟨16, 5, true⟩

def Found.message : Found → String
  | .null => "null"
  | .bool true => "boolean `true`"
  | .bool false => "boolean `false`"
  | .integer n => "integer `" ++ String.ofList (Text.integer n) ++ "`"
  | .real x => "floating point `" ++ doubleFormat.write x ++ "`"
  | .text s => "string " ++ Text.quoted s
  | .list => "sequence"
  | .object => "map"

def Fault.message : Fault → String
  | .endInValue => "EOF while parsing a value"
  | .endInList => "EOF while parsing a list"
  | .endInObject => "EOF while parsing an object"
  | .endInText => "EOF while parsing a string"
  | .expectedValue => "expected value"
  | .expectedWord => "expected ident"
  | .expectedColon => "expected `:`"
  | .expectedListEnd => "expected `,` or `]`"
  | .expectedObjectEnd => "expected `,` or `\x7d`"
  | .trailingComma => "trailing comma"
  | .trailingText => "trailing characters"
  | .keyNotText => "key must be a string"
  | .badNumber => "invalid number"
  | .numberRange => "number out of range"
  | .badEscape => "invalid escape"
  | .controlCharacter => "control character (\\u0000-\\u001F) found while parsing a string"
  | .loneSurrogate => "lone leading surrogate in hex escape"
  | .cutSurrogate => "unexpected end of hex escape"
  | .tooDeep => "recursion limit exceeded"
  | .missingField name => "missing field `" ++ name ++ "`"
  | .duplicateField name => "duplicate field `" ++ name ++ "`"
  | .wrongKind found expected => "invalid type: " ++ found.message ++ ", expected " ++ expected
  | .wrongInteger n expected =>
    "invalid value: " ++ (Found.integer n).message ++ ", expected " ++ expected
  | .wrongLength length expected =>
    "invalid length " ++ String.ofList (Text.natural length) ++ ", expected " ++ expected
  | .noVariant => "data did not match any variant of untagged enum StoredLine"

/-- Reads from the front of a text; the rest is what was not needed. -/
abbrev Reader (α : Type) := List Char → Except Fault (α × List Char)

def isSpace (c : Char) : Bool := c == ' ' || c == '\t' || c == '\n' || c == '\r'

def skipSpace (cs : List Char) : List Char := cs.dropWhile isSpace

/-- What is left after a whole text may only be white space. -/
def finish : List Char → Except Fault Unit
  | cs => if (skipSpace cs).isEmpty then .ok () else .error .trailingText

end DropLedger.Json
