/-! White space in the sense of Unicode, and cutting it off both ends of a text. -/
namespace DropLedger.Text

/-- The characters with the property White_Space. The zero width space and the byte order mark do
not have it. -/
def isBlank (c : Char) : Bool :=
  let n := c.toNat
  (9 ≤ n && n ≤ 13) || n == 0x20 || n == 0x85 || n == 0xA0 || n == 0x1680 ||
    (0x2000 ≤ n && n ≤ 0x200A) || n == 0x2028 || n == 0x2029 || n == 0x202F || n == 0x205F ||
    n == 0x3000

def trimLeft (cs : List Char) : List Char := cs.dropWhile isBlank

def trimRight (cs : List Char) : List Char := (cs.reverse.dropWhile isBlank).reverse

def trimChars (cs : List Char) : List Char := trimRight (trimLeft cs)

/-- The text without the white space at its two ends. -/
def trim (s : String) : String := String.ofList (trimChars s.toList)

end DropLedger.Text
