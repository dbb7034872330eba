import DropLedger.Text.Utf8

/-! What a text shows on a terminal: the sequences that steer the terminal and the control
characters are left out, white space excepted. -/
namespace DropLedger.Text

/-- How far a steering sequence has come. -/
inductive Steering where
  /-- No sequence has begun. -/
  | off
  | escape
  | escapeMore
  /-- Numbers and marks up to the letter of a command. -/
  | command
  | device
  | deviceNumbers
  | deviceMore
  /-- Text for a device. The byte 9C ends it, even inside a character. -/
  | block
  /-- The title of the window, which also a bell ends. -/
  | title
deriving DecidableEq, Repr

/-- The white space that a terminal carries out as a control character. -/
def isBreak (c : Char) : Bool := c = '\t' || c = '\n' || c = '\x0c' || c = '\r'

namespace Steering

/-- Line breaks take effect inside these sequences. -/
def passesBreaks : Steering → Bool
  | .escape | .escapeMore | .command => true
  | _ => false

/-- How far the sequence is after an ASCII character. -/
def next (s : Steering) (c : Char) : Steering :=
  if c = '\x1b' then .escape
  else if c = '\x18' || c = '\x1a' then .off
  else if s = .title then (if c = '\x07' then .off else .title)
  else if c < ' ' || c = '\x7f' then s
  else match s with
    | .off => .off
    | .escape =>
      if c < '0' then .escapeMore
      else if c = '[' then .command
      else if c = 'P' then .device
      else if c = ']' then .title
      else if c = 'X' || c = '^' || c = '_' then .block
      else .off
    | .escapeMore => if c < '0' then .escapeMore else .off
    | .command => if c < '@' then .command else .off
    | .device =>
      if c < '0' then .deviceMore else if c < '@' then .deviceNumbers else .block
    | .deviceNumbers =>
      if c < '0' then .deviceMore else if c < '<' then .deviceNumbers else .block
    | .deviceMore => if c < '0' then .deviceMore else .block
    | .block => .block
    | .title => .title

/-- How far the sequence is after a character that is not ASCII and is not shown. -/
def nextWide (s : Steering) (c : Char) : Steering :=
  if s = .block && (Utf8.encodeChar c).contains 0x9C then .off else s

end Steering

/-- What is shown. While `showing`, all that can be shown is, and the sequence that a line break has
come into waits for the next control character. -/
def visibleFrom (showing : Bool) (s : Steering) : List Char → List Char
  | [] => []
  | c :: cs =>
    if 0x80 ≤ c.toNat then
      if showing || s = .off then c :: visibleFrom true .off cs
      else visibleFrom false (s.nextWide c) cs
    else if (if showing || s = .off then isBreak c || (' ' ≤ c && c < '\x7f')
        else isBreak c && s.passesBreaks) then
      c :: visibleFrom true s cs
    else visibleFrom false (s.next c) cs

def visible (s : String) : String := String.ofList (visibleFrom false .off s.toList)

end DropLedger.Text
