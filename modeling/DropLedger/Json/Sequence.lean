import DropLedger.Json.Literal

/-! The comma-separated parts of lists and objects. Reading and skipping walk them alike and differ
in what they say of a comma that nothing follows. -/
namespace DropLedger.Json

/-- The faults after a comma: the container is closed there, or the text ends there. -/
structure CommaFaults where
  closed : Fault
  ended : Fault

/-- Goes on with `next` after a comma, unless the list is closed or ended there. -/
def afterListComma (faults : CommaFaults) (next : Reader α) (cs : List Char) :
    Except Fault (α × List Char) :=
  match skipSpace cs with
  | [] => .error faults.ended
  | ']' :: _ => .error faults.closed
  | cs => next cs

/-- The items that are left, after an item. `bound` is a text with more characters than there are
items. -/
def moreItems (faults : CommaFaults) (item : Reader α) : List Char → Reader (List α)
  | [], _ => .error .endInList
  | _ :: bound, cs =>
    match skipSpace cs with
    | [] => .error .endInList
    | ']' :: rest => .ok ([], rest)
    | ',' :: rest => do
      let (a, rest) ← afterListComma faults item rest
      let (as, rest) ← moreItems faults item bound rest
      return (a :: as, rest)
    | _ => .error .expectedListEnd

/-- The items of a list after its opening bracket. There are fewer items than characters. -/
def readItems (faults : CommaFaults) (item : Reader α) (cs : List Char) :
    Except Fault (List α × List Char) :=
  match skipSpace cs with
  | [] => .error .endInList
  | ']' :: rest => .ok ([], rest)
  | cs => do
    let (a, rest) ← item cs
    let (as, rest) ← moreItems faults item cs rest
    return (a :: as, rest)

def readColon (cs : List Char) : Except Fault (List Char) :=
  match skipSpace cs with
  | [] => .error .endInObject
  | ':' :: rest => .ok rest
  | _ => .error .expectedColon

/-- The entries that are left, after an entry. Each key and then its entry move the state on;
`bound` is a text with more characters than there are entries. -/
def moreEntries (faults : CommaFaults) (key : Reader κ) (entry : σ → κ → Reader σ) :
    List Char → σ → Reader σ
  | [], _, _ => .error .endInObject
  | _ :: bound, s, cs =>
    match skipSpace cs with
    | [] => .error .endInObject
    | '}' :: rest => .ok (s, rest)
    | ',' :: rest =>
      match skipSpace rest with
      | [] => .error faults.ended
      | '}' :: _ => .error faults.closed
      | '"' :: rest => do
        let (k, rest) ← key rest
        let (s, rest) ← entry s k rest
        moreEntries faults key entry bound s rest
      | _ => .error .keyNotText
    | _ => .error .expectedObjectEnd

def readEntries (faults : CommaFaults) (key : Reader κ) (entry : σ → κ → Reader σ) (s : σ)
    (cs : List Char) : Except Fault (σ × List Char) :=
  match skipSpace cs with
  | [] => .error .endInObject
  | '}' :: rest => .ok (s, rest)
  | '"' :: rest => do
    let (k, rest) ← key rest
    let (s, rest) ← entry s k rest
    moreEntries faults key entry cs s rest
  | _ => .error .keyNotText

/-- A comma before the closing sign is a fault of its own when reading. -/
def readFaults : CommaFaults := ⟨.trailingComma, .endInValue⟩

/-- When skipping, what follows a comma in a list has to be a value. -/
def skipListFaults : CommaFaults := ⟨.expectedValue, .endInValue⟩

/-- When skipping, what follows a comma in an object has to be a key. -/
def skipObjectFaults : CommaFaults := ⟨.keyNotText, .endInObject⟩

/-- The rest of a word whose first letter has been read. -/
def readWord : List Char → List Char → Except Fault (List Char)
  | [], cs => .ok cs
  | _ :: _, [] => .error .endInValue
  | w :: ws, c :: cs => if c = w then readWord ws cs else .error .expectedWord

end DropLedger.Json
