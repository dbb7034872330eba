import DropLedger.Kill
import DropLedger.Json.Decoder

/-! The two layouts of kills and drops in JSON. The current one is written; the older one is only
read, and most of its fields may be missing. -/
namespace DropLedger

open Json (Decoder Field Layout)

def decodeSigned32 : Decoder Signed32 := .integer _ _ "i32"

def decodeUnsigned32 : Decoder Unsigned32 := .integer _ _ "u32"

def decodeSigned64 : Decoder Signed64 := .integer _ _ "i64"

def decodeName : Decoder String := .text "a string"

/-- A field that may not be missing. -/
def need (name : String) : Option α → Except String α
  | some a => .ok a
  | none => .error name

structure DropDraft where
  name : Option String := none
  id : Option Signed32 := none
  quantity : Option Unsigned32 := none
  price : Option Signed64 := none

structure KillDraft where
  id : Option Signed32 := none
  name : Option String := none
  level : Option Signed32 := none
  killCount : Option Signed32 := none
  drops : Option (List Drop) := none

namespace Current

def dropLayout : Layout DropDraft Drop where
  title := "struct ItemEntry"
  start := {}
  fields := [
    .of "name" true decodeName (·.name) fun s a => { s with name := some a },
    .of "id" true decodeSigned32 (·.id) fun s a => { s with id := some a },
    .of "quantity" true decodeUnsigned32 (·.quantity) fun s a => { s with quantity := some a },
    .of "price" true decodeSigned64 (·.price) fun s a => { s with price := some a }]
  finish s := do
    let name ← need "name" s.name
    let id ← need "id" s.id
    let quantity ← need "quantity" s.quantity
    let price ← need "price" s.price
    return ⟨name, id, quantity, price⟩

def killLayout : Layout KillDraft Kill where
  title := "struct KillRecord"
  start := {}
  fields := [
    .of "id" true decodeSigned32 (·.id) fun s a => { s with id := some a },
    .of "name" true decodeName (·.name) fun s a => { s with name := some a },
    .of "level" true decodeSigned32 (·.level) fun s a => { s with level := some a },
    .of "killCount" true decodeSigned32 (·.killCount) fun s a => { s with killCount := some a },
    .of "drops" true (.list dropLayout.decoder) (·.drops) fun s a => { s with drops := some a }]
  finish s := do
    let id ← need "id" s.id
    let name ← need "name" s.name
    let level ← need "level" s.level
    let killCount ← need "killCount" s.killCount
    let drops ← need "drops" s.drops
    return ⟨id, name, level, killCount, drops⟩

end Current

namespace Older

/-- Only the id is required. -/
def dropLayout : Layout DropDraft Drop where
  title := "struct LegacyItemEntry"
  start := {}
  fields := [
    .of "id" true decodeSigned32 (·.id) fun s a => { s with id := some a },
    .of "name" false decodeName (·.name) fun s a => { s with name := some a },
    .of "amount" false decodeUnsigned32 (·.quantity) fun s a => { s with quantity := some a },
    .of "price" false decodeSigned64 (·.price) fun s a => { s with price := some a }]
  finish s := do
    let id ← need "id" s.id
    return ⟨s.name.getD "", id, s.quantity.getD Unsigned32.zero, s.price.getD Signed64.zero⟩

/-- Only the name is required. -/
def killLayout : Layout KillDraft Kill where
  title := "struct LegacyKillRecord"
  start := {}
  fields := [
    .of "npcID" false decodeSigned32 (·.id) fun s a => { s with id := some a },
    .of "npcName" true decodeName (·.name) fun s a => { s with name := some a },
    .of "npcLevel" false decodeSigned32 (·.level) fun s a => { s with level := some a },
    .of "killCount" false decodeSigned32 (·.killCount) fun s a => { s with killCount := some a },
    .of "drops" false (.list dropLayout.decoder) (·.drops) fun s a => { s with drops := some a }]
  finish s := do
    let name ← need "npcName" s.name
    return ⟨s.id.getD unknown, name, s.level.getD unknown, s.killCount.getD unknown,
      s.drops.getD []⟩

end Older

open Json (Value Number) in
/-- The current layout. -/
def Drop.toValue (d : Drop) : Value :=
  .object [
    ("name", .text d.name),
    ("id", .number (.whole d.id.val)),
    ("quantity", .number (.whole d.quantity.val)),
    ("price", .number (.whole d.price.val))]

open Json (Value Number) in
def Kill.toValue (k : Kill) : Value :=
  .object [
    ("id", .number (.whole k.id.val)),
    ("name", .text k.name),
    ("level", .number (.whole k.level.val)),
    ("killCount", .number (.whole k.killCount.val)),
    ("drops", .list (k.drops.map Drop.toValue))]

end DropLedger
