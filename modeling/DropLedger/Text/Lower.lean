import DropLedger.Text.CaseTable

/-! Small letters. The change is the full one of Unicode: a letter may become two characters, and
capital sigma has two small forms. -/
namespace DropLedger.Text

/-- The small form of one character, which depends on nothing around it. -/
def lowerChar (c : Char) : List Char :=
  if c = 'İ' then ['i', '\u0307']
  else match caseRuns.find? (·.has c.toNat) with
    | some r => [Char.ofNat (c.toNat + r.shift).toNat]
    | none => [c]

/-- Skips what may stand inside a word and tells whether a cased letter follows. -/
def meetsCased (cs : List Char) : Bool :=
  match cs.dropWhile (caseIgnorable.has ·) with
  | c :: _ => cased.has c
  | [] => false

/-- Lowers what remains; `before` holds the characters already passed, the nearest first. A capital
sigma that ends a word becomes the final form. -/
def lowerFrom (before : List Char) : List Char → List Char
  | [] => []
  | c :: rest =>
    let small :=
      if c = 'Σ' then (if meetsCased before && !meetsCased rest then ['ς'] else ['σ'])
      else lowerChar c
    small ++ lowerFrom (c :: before) rest

def lowerChars (cs : List Char) : List Char := lowerFrom [] cs

def lower (s : String) : String := String.ofList (lowerChars s.toList)

end DropLedger.Text
