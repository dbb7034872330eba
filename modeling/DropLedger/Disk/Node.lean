import DropLedger.Bytes

/-! Trees of directories and regular files. -/
namespace DropLedger

/-- There are no links, so each node has one place. Of two entries with one name the first
counts. -/
inductive Node where
  | file (content : Bytes)
  | dir (entries : List (Bytes × Node))

/-- The names that lead from the top of a tree to a node. -/
abbrev Location := List Bytes

namespace Node

def isDir : Node → Bool
  | .dir _ => true
  | .file _ => false

def at? : Node → Location → Option Node
  | n, [] => some n
  | .file _, _ :: _ => none
  | .dir es, name :: rest =>
    match es.lookup name with
    | some n => n.at? rest
    | none => none
termination_by structural _ loc => loc

/-- Puts a node under a name, or takes the name away. -/
def setEntry (name : Bytes) (n : Option Node) (es : List (Bytes × Node)) : List (Bytes × Node) :=
  let others := es.filter (·.1 != name)
  match n with
  | some n => (name, n) :: others
  | none => others

/-- Changes what stands at a location. Where no directory leads there, nothing changes. -/
def alter (f : Option Node → Option Node) : Location → Option Node → Option Node
  | [], n => f n
  | name :: rest, some (.dir es) => some (.dir (setEntry name (alter f rest (es.lookup name)) es))
  | _ :: _, n => n

/-- The entries that count, in the order of their names. -/
def listing (es : List (Bytes × Node)) : List (Bytes × Node) :=
  let names := (es.map (·.1)).eraseDups.mergeSort bytesLe
  names.filterMap fun name => (es.lookup name).map (name, ·)

mutual

/-- Every node below this one with its location, depth first; a directory has no content. -/
def outline (loc : Location) : Node → List (Location × Option Bytes)
  | .file content => [(loc, some content)]
  | .dir es =>
    let parts := outlineEntries loc es
    let names := (parts.map (·.1)).eraseDups.mergeSort bytesLe
    (loc, none) :: names.flatMap fun name => (parts.lookup name).getD []

def outlineEntries (loc : Location) :
    List (Bytes × Node) → List (Bytes × List (Location × Option Bytes))
  | [] => []
  | (name, n) :: es => (name, n.outline (loc ++ [name])) :: outlineEntries loc es

end

end Node

end DropLedger
