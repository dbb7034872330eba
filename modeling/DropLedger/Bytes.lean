/-! Bytes, and cutting them at a separator. -/
namespace DropLedger

abbrev Bytes := List UInt8

def newline : UInt8 := 0x0A

/-- The runs of bytes between the separators. There is one run more than there are separators. -/
def splitBytes (separator : UInt8) : Bytes → List Bytes
  | [] => [[]]
  | b :: rest =>
    if b = separator then [] :: splitBytes separator rest
    else match splitBytes separator rest with
      | run :: runs => (b :: run) :: runs
      | [] => [[b]]

/-- What has to be added to a content so that a line stands on its own: a content that does not end
in a line end is given one first. -/
def freshLine (content line : Bytes) : Bytes :=
  if content.isEmpty || content.getLast? == some newline then line else newline :: line

/-- The order of bytes, the first difference deciding. -/
def bytesLe : Bytes → Bytes → Bool
  | [], _ => true
  | _ :: _, [] => false
  | a :: as, b :: bs => a < b || (a == b && bytesLe as bs)

end DropLedger
