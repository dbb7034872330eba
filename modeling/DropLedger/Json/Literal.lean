import DropLedger.Json.Fault
import DropLedger.Text.Utf8

/-! Reading a JSON text literal after its opening quote, and skipping one. -/
namespace DropLedger.Json

def shortEscape? (c : Char) : Option Char :=
  if c = '"' || c = '\\' || c = '/' then some c
  else if c = 'b' then some '\x08'
  else if c = 'f' then some '\x0c'
  else if c = 'n' then some '\n'
  else if c = 'r' then some '\r'
  else if c = 't' then some '\t'
  else none

def hexDigit? (c : Char) : Option Nat :=
  let n := c.toNat
  if 48 ≤ n && n ≤ 57 then some (n - 48)
  else if 65 ≤ n && n ≤ 70 then some (n - 55)
  else if 97 ≤ n && n ≤ 102 then some (n - 87)
  else none

/-- The code unit that four hexadecimal digits stand for. -/
def codeUnit? (a b c d : Char) : Option Nat := do
  return ((← hexDigit? a) * 16 + (← hexDigit? b)) * 256 + (← hexDigit? c) * 16 + (← hexDigit? d)

/-- The fault of a code unit with fewer than four characters after it: the text has ended if fewer
than four bytes are left. -/
def shortUnit (cs : List Char) : Fault :=
  if Utf8.size cs < 4 then .endInText else .badEscape

/-- The first of the two code units of a character beyond the first plane. -/
def isLead (n : Nat) : Bool := 0xD800 ≤ n && n ≤ 0xDBFF

/-- The second of the two. -/
def isTrail (n : Nat) : Bool := 0xDC00 ≤ n && n ≤ 0xDFFF

def joinUnits (lead trail : Nat) : Char :=
  .ofNat ((lead - 0xD800) * 1024 + (trail - 0xDC00) + 0x10000)

/-- Puts a character before what the rest of the literal holds. -/
def consChar (c : Char) :
    Except Fault (List Char × List Char) → Except Fault (List Char × List Char)
  | .ok (cs, rest) => .ok (c :: cs, rest)
  | .error f => .error f

/-- The characters up to the closing quote. Surrogates have to come in pairs. -/
def readChars : List Char → Except Fault (List Char × List Char)
  | [] => .error .endInText
  | '"' :: rest => .ok ([], rest)
  | '\\' :: [] => .error .endInText
  | '\\' :: 'u' :: a :: b :: c :: d :: rest =>
    match codeUnit? a b c d with
    | none => .error .badEscape
    | some lead =>
      if isTrail lead then .error .loneSurrogate
      else if !isLead lead then consChar (.ofNat lead) (readChars rest)
      else match rest with
        | [] => .error .endInText
        | '\\' :: [] => .error .endInText
        | '\\' :: 'u' :: e :: f :: g :: h :: rest =>
          match codeUnit? e f g h with
          | none => .error .badEscape
          | some trail =>
            if isTrail trail then consChar (joinUnits lead trail) (readChars rest)
            else .error .loneSurrogate
        | '\\' :: 'u' :: few => .error (shortUnit few)
        | _ => .error .cutSurrogate
  | '\\' :: 'u' :: few => .error (shortUnit few)
  | '\\' :: c :: rest =>
    match shortEscape? c with
    | some d => consChar d (readChars rest)
    | none => .error .badEscape
  | c :: rest => if c < ' ' then .error .controlCharacter else consChar c (readChars rest)

def readText (cs : List Char) : Except Fault (String × List Char) :=
  (readChars cs).map fun (text, rest) => (String.ofList text, rest)

/-- Skips to the closing quote. Surrogates may stand alone. -/
def skipText : List Char → Except Fault (Unit × List Char)
  | [] => .error .endInText
  | '"' :: rest => .ok ((), rest)
  | '\\' :: [] => .error .endInText
  | '\\' :: 'u' :: a :: b :: c :: d :: rest =>
    match codeUnit? a b c d with
    | none => .error .badEscape
    | some _ => skipText rest
  | '\\' :: 'u' :: few => .error (shortUnit few)
  | '\\' :: c :: rest =>
    match shortEscape? c with
    | some _ => skipText rest
    | none => .error .badEscape
  | c :: rest => if c < ' ' then .error .controlCharacter else skipText rest

end DropLedger.Json
