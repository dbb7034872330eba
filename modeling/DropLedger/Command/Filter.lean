import DropLedger.Command.Filter.Rule

/-! Which notices are shown. A filter is a list of rules between commas. -/
namespace DropLedger

/-- The text between commas, where there is any. -/
def splitCommas (cs : List Char) : List (List Char) :=
  (go cs).filter (!·.isEmpty)
where
  go : List Char → List (List Char)
    | [] => [[]]
    | c :: cs =>
      if c = ',' then [] :: go cs
      else match go cs with
        | part :: parts => (c :: part) :: parts
        | [] => [[c]]

structure Filter where
  rules : List Rule
deriving DecidableEq, Repr

namespace Filter

/-- Shows all notices up to a level. -/
def ofLevel (level : Level) : Filter := ⟨[⟨none, .everything, level.rank⟩]⟩

/-- Errors only, where there is no rule at all. -/
def ofRules (rules : List Rule) : Filter := if rules.isEmpty then ofLevel .error else ⟨rules⟩

/-- Reads a filter in which every rule has to be right. -/
def strict (s : String) : Except RuleFault Filter :=
  ((splitCommas s.toList).mapM Rule.read).map ofRules

/-- A part of a filter that is no rule, with what is wrong with it. -/
abbrev Misread := List Char × RuleFault

/-- Reads a filter and leaves out the parts that are no rules, which are handed back. -/
def lenient (s : String) : Filter × List Misread :=
  let parts := splitCommas s.toList
  (ofRules (parts.filterMap fun part => (Rule.read part).toOption),
    parts.filterMap fun part =>
      match Rule.read part with
      | .ok _ => none
      | .error fault => some (part, fault))

/-- The rule that decides on a notice: of those that say the most about it the last. -/
def deciding (f : Filter) (n : Notice) : Option Rule :=
  (f.rules.filter (·.concerns n)).foldl choose none
where
  choose : Option Rule → Rule → Option Rule
    | none, r => some r
    | some best, r => some (if r.weight < best.weight then best else r)

def shows (f : Filter) (n : Notice) : Bool := (f.deciding n).any (n.level.rank ≤ ·.rank)

/-- What is said of a part that is left out. -/
def complaint (part : Misread) : String :=
  "ignoring `" ++ String.ofList part.1 ++ "`: " ++ part.2.message

end Filter

end DropLedger
