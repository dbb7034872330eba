import DropLedger.Disk.Path
import DropLedger.Text.Blank
import DropLedger.Text.Lower

/-! Names on the disk: what an entity is looked up by, and which files belong to entities. -/
namespace DropLedger

/-- The characters that some system does not take in a file name. -/
def isUnsafe (c : Char) : Bool :=
  ['/', '\\', ':', '*', '?', '"', '<', '>', '|'].contains c || c < ' '

/-- Every unsafe character becomes a low line. Different texts may become the same. -/
def sanitize (cs : List Char) : List Char := cs.map fun c => if isUnsafe c then '_' else c

/-- Only dots, or nothing: not a name of its own in a directory. -/
def isDots (cs : List Char) : Bool := cs.all (· == '.')

/-- The key of an entity: without white space at its ends, in small letters, and safe as the stem
of a file name. Names that come to nothing but dots have none. -/
def keyOf? (entity : String) : Option String :=
  let key := sanitize (Text.lowerChars (Text.trimChars entity.toList))
  if isDots key then none else some (String.ofList key)

/-- The name of the file that holds the log of a key. -/
def logName (key : String) : Bytes := Utf8.ofString key ++ Utf8.ofString ".log"

/-- The name of the file in which a log is written anew before it takes the place of the old. -/
def spareName (key : String) : Bytes := withEnding (logName key) (Utf8.ofString "log.tmp")

/-- What stands before the ending of a log file. Line ends are not admitted there. -/
def stem? (name : String) : Option String :=
  match name.toList.reverse with
  | 'g' :: 'o' :: 'l' :: '.' :: rest =>
    if rest.isEmpty || rest.contains '\n' then none else some (String.ofList rest.reverse)
  | _ => none

end DropLedger
