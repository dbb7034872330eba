import DropLedger.Bytes

/-! UTF-8. Reading cuts the bytes into characters and into the pieces that are not characters;
a piece is as short as the first byte that cannot belong to it allows. -/
namespace DropLedger

namespace Utf8

def encodeChar (c : Char) : Bytes :=
  let n := c.toNat
  if n < 0x80 then [.ofNat n]
  else if n < 0x800 then [.ofNat (0xC0 + n / 64), .ofNat (0x80 + n % 64)]
  else if n < 0x10000 then
    [.ofNat (0xE0 + n / 4096), .ofNat (0x80 + n / 64 % 64), .ofNat (0x80 + n % 64)]
  else
    [.ofNat (0xF0 + n / 262144), .ofNat (0x80 + n / 4096 % 64), .ofNat (0x80 + n / 64 % 64),
      .ofNat (0x80 + n % 64)]

def encode (cs : List Char) : Bytes := cs.flatMap encodeChar

def ofString (s : String) : Bytes := encode s.toList

/-- The number of bytes of a text. -/
def size : List Char → Nat
  | [] => 0
  | c :: cs => c.utf8Size + size cs

/-- Cuts a text after some bytes. No cut goes through a character. -/
def cut? : Nat → List Char → Option (List Char × List Char)
  | 0, cs => some ([], cs)
  | _ + 1, [] => none
  | bytes, c :: cs =>
    if bytes < c.utf8Size then none
    else (cut? (bytes - c.utf8Size) cs).map fun (front, back) => (c :: front, back)

/-- The part of a text between two positions, which are counted in bytes. -/
def part? (first last : Nat) (cs : List Char) : Option (List Char) := do
  let (_, rest) ← cut? first cs
  let (part, _) ← cut? (last - first) rest
  return part

/-- What a run of bytes is read as: a character, `broken n` for `n` bytes that begin no character,
or `cut` where the bytes end inside one. -/
inductive Piece where
  | char (c : Char)
  | broken (length : Nat)
  | cut
deriving DecidableEq, Repr

def isTail (b : UInt8) : Bool := 0x80 ≤ b.toNat && b.toNat ≤ 0xBF

/-- The second byte decides against overlong forms, surrogates and what lies past the last code
point. -/
def secondFits (first second : UInt8) : Bool :=
  if first.toNat == 0xE0 then 0xA0 ≤ second.toNat && second.toNat ≤ 0xBF
  else if first.toNat == 0xED then 0x80 ≤ second.toNat && second.toNat ≤ 0x9F
  else if first.toNat == 0xF0 then 0x90 ≤ second.toNat && second.toNat ≤ 0xBF
  else if first.toNat == 0xF4 then 0x80 ≤ second.toNat && second.toNat ≤ 0x8F
  else isTail second

def scan : Bytes → List Piece
  | [] => []
  | a :: rest =>
    if a.toNat < 0x80 then .char (.ofNat a.toNat) :: scan rest
    else if a.toNat < 0xC2 || 0xF4 < a.toNat then .broken 1 :: scan rest
    else match rest with
      | [] => [.cut]
      | b :: rest =>
        if !secondFits a b then .broken 1 :: scan (b :: rest)
        else if a.toNat < 0xE0 then
          .char (.ofNat ((a.toNat - 0xC0) * 64 + (b.toNat - 0x80))) :: scan rest
        else match rest with
          | [] => [.cut]
          | c :: rest =>
            if !isTail c then .broken 2 :: scan (c :: rest)
            else if a.toNat < 0xF0 then
              .char (.ofNat ((a.toNat - 0xE0) * 4096 + (b.toNat - 0x80) * 64 + (c.toNat - 0x80)))
                :: scan rest
            else match rest with
              | [] => [.cut]
              | d :: rest =>
                if !isTail d then .broken 3 :: scan (d :: rest)
                else
                  .char (.ofNat ((a.toNat - 0xF0) * 262144 + (b.toNat - 0x80) * 4096 +
                    (c.toNat - 0x80) * 64 + (d.toNat - 0x80))) :: scan rest

inductive Fault where
  | broken (length index : Nat)
  | cut (index : Nat)
deriving DecidableEq, Repr

def Fault.message : Fault → String
  | .broken length index => s!"invalid utf-8 sequence of {length} bytes from index {index}"
  | .cut index => s!"incomplete utf-8 byte sequence from index {index}"

/-- The characters of the pieces; `index` is where the first piece begins. -/
def assemble (index : Nat) : List Piece → Except Fault (List Char)
  | [] => .ok []
  | .char c :: rest => (assemble (index + c.utf8Size) rest).map (c :: ·)
  | .broken length :: _ => .error (.broken length index)
  | .cut :: _ => .error (.cut index)

def decode (bs : Bytes) : Except Fault (List Char) := assemble 0 (scan bs)

def toString? (bs : Bytes) : Option String :=
  match decode bs with
  | .ok cs => some (String.ofList cs)
  | .error _ => none

/-- Every piece that is no character shows as the replacement character. -/
def lossy (bs : Bytes) : String :=
  String.ofList ((scan bs).map fun
    | .char c => c
    | _ => '\uFFFD')

end Utf8

end DropLedger
