import DropLedger.Proofs.Json.Agreement
import DropLedger.Proofs.Json.Fields
import DropLedger.Proofs.Kill.Line

/-! The older layout loses nothing. Whichever of its fields are missing, in whatever order the
others stand, and whatever else stands between them, the kill is read with what was given. -/
namespace DropLedger
open Json

/-- A drop of the older layout. -/
structure OlderDrop where
  id : Signed32
  name : Option String := none
  amount : Option Unsigned32 := none
  price : Option Signed64 := none

/-- A kill of the older layout. -/
structure OlderKill where
  name : String
  id : Option Signed32 := none
  level : Option Signed32 := none
  killCount : Option Signed32 := none
  drops : Option (List OlderDrop) := none

/-- An integer as a JSON number. -/
def numeric {lo hi : Int} (n : Bounded lo hi) : Value := .number (.whole n.val)

namespace OlderDrop

def drop (d : OlderDrop) : Drop :=
  ⟨d.name.getD "", d.id, d.amount.getD Unsigned32.zero, d.price.getD Signed64.zero⟩

def entries (d : OlderDrop) : List (String × Value) :=
  Layout.given "id" (some (numeric d.id)) ++ Layout.given "name" (d.name.map .text) ++
    Layout.given "amount" (d.amount.map numeric) ++ Layout.given "price" (d.price.map numeric)

def WrittenAs (d : OlderDrop) (v : Value) : Prop :=
  Arranged ["id", "name", "amount", "price"] d.entries v

end OlderDrop

namespace OlderKill

def kill (k : OlderKill) : Kill :=
  ⟨k.id.getD unknown, k.name, k.level.getD unknown, k.killCount.getD unknown,
    (k.drops.getD []).map OlderDrop.drop⟩

def entries (k : OlderKill) (drops : Option (List Value)) : List (String × Value) :=
  Layout.given "npcID" (k.id.map numeric) ++ Layout.given "npcName" (some (.text k.name)) ++
    Layout.given "npcLevel" (k.level.map numeric) ++
      Layout.given "killCount" (k.killCount.map numeric) ++ Layout.given "drops" (drops.map .list)

/-- The keys of the current layout that the older one does not have are reserved, too. -/
def WrittenAs (k : OlderKill) (v : Value) : Prop :=
  ∃ drops, Option.Rel (List.Forall₂ OlderDrop.WrittenAs) k.drops drops ∧
    Arranged ["npcID", "npcName", "npcLevel", "killCount", "drops", "id", "name", "level"]
      (k.entries drops) v

end OlderKill

/-- Whatever the fields of a kill are called. -/
theorem kill_fields_independent {id name level killCount drops : String} {p q r t u : Bool}
    {d : Decoder (List Drop)} :
    Independent [
      .of id p decodeSigned32 (·.id) fun (s : KillDraft) a => { s with id := some a },
      .of name q decodeName (·.name) fun s a => { s with name := some a },
      .of level r decodeSigned32 (·.level) fun s a => { s with level := some a },
      .of killCount t decodeSigned32 (·.killCount) fun s a => { s with killCount := some a },
      .of drops u d (·.drops) fun s a => { s with drops := some a }] := by
  constructor
  · simp only [List.pairwise_cons, List.forall_mem_cons, List.not_mem_nil, false_implies,
      implies_true, and_true, List.Pairwise.nil]
    refine ⟨⟨?_, ?_, ?_, ?_⟩, ⟨?_, ?_, ?_⟩, ⟨?_, ?_⟩, ?_⟩ <;>
      exact Field.apart_of (fun _ _ _ => rfl) (fun _ _ => rfl) (fun _ _ => rfl)
  · simp only [List.forall_mem_cons, List.not_mem_nil, false_implies, implies_true, and_true]
    refine ⟨?_, ?_, ?_, ?_, ?_⟩ <;> exact Field.shown_of fun _ _ => rfl

namespace Older

theorem drop_independent : Independent dropLayout.fields := by
  constructor
  · simp only [dropLayout, List.pairwise_cons, List.forall_mem_cons, List.not_mem_nil,
      false_implies, implies_true, and_true, List.Pairwise.nil]
    refine ⟨⟨?_, ?_, ?_⟩, ⟨?_, ?_⟩, ?_⟩ <;>
      exact Field.apart_of (fun _ _ _ => rfl) (fun _ _ => rfl) (fun _ _ => rfl)
  · simp only [dropLayout, List.forall_mem_cons, List.not_mem_nil, false_implies, implies_true,
      and_true]
    refine ⟨?_, ?_, ?_, ?_⟩ <;> exact Field.shown_of fun _ _ => rfl

theorem kill_independent : Independent killLayout.fields := kill_fields_independent

theorem numeric_ofValue {lo hi : Int} (expected : String) (n : Bounded lo hi) :
    (Decoder.integer lo hi expected).ofValue (numeric n) = some n := ofValue_integer expected n

theorem text_ofValue (s : String) : decodeName.ofValue (.text s) = some s := rfl

theorem drop_entries (d : OlderDrop) :
    d.entries.foldlM (Layout.entryOfValue dropLayout.fields) dropLayout.start =
      some ⟨d.name, some d.id, d.amount, d.price⟩ := by
  have id := Layout.foldlM_given dropLayout.fields "id"
    (fun o => ⟨none, o, none, none⟩) rfl rfl (fun _ => rfl)
    (Layout.map_ofValue (numeric_ofValue "i32") (some d.id))
  have name := Layout.foldlM_given dropLayout.fields "name"
    (fun o => ⟨o, some d.id, none, none⟩) rfl rfl (fun _ => rfl)
    (Layout.map_ofValue text_ofValue d.name)
  have amount := Layout.foldlM_given dropLayout.fields "amount"
    (fun o => ⟨d.name, some d.id, o, none⟩) rfl rfl (fun _ => rfl)
    (Layout.map_ofValue (numeric_ofValue "u32") d.amount)
  have price := Layout.foldlM_given dropLayout.fields "price"
    (fun o => ⟨d.name, some d.id, d.amount, o⟩) rfl rfl (fun _ => rfl)
    (Layout.map_ofValue (numeric_ofValue "i64") d.price)
  rw [OlderDrop.entries, List.append_assoc, List.append_assoc]
  exact (Layout.foldlM_then id).trans <| (Layout.foldlM_then name).trans <|
    (Layout.foldlM_then amount).trans price

theorem drop_ofValue {d : OlderDrop} {v : Value} (written : d.WrittenAs v) :
    dropLayout.decoder.ofValue v = some d.drop := by
  obtain ⟨es, rfl, run⟩ := Layout.arranged_foldlM drop_independent
    (forall_mem_of_all (by decide)) written (drop_entries d)
  rw [ofValue_object, run]
  rfl

theorem drops_ofValue {ds : List OlderDrop} {vs : List Value}
    (written : List.Forall₂ OlderDrop.WrittenAs ds vs) :
    (Decoder.list dropLayout.decoder).ofValue (.list vs) = some (ds.map OlderDrop.drop) := by
  change vs.mapM dropLayout.decoder.ofValue = _
  induction written with
  | nil => rfl
  | cons first _ ih => simp [drop_ofValue first, ih]

theorem kill_entries (k : OlderKill) {drops : Option (List Value)}
    (written : Option.Rel (List.Forall₂ OlderDrop.WrittenAs) k.drops drops) :
    (k.entries drops).foldlM (Layout.entryOfValue killLayout.fields) killLayout.start =
      some ⟨k.id, some k.name, k.level, k.killCount, k.drops.map (·.map OlderDrop.drop)⟩ := by
  have decoded : (drops.map .list).map (Decoder.list dropLayout.decoder).ofValue =
      (k.drops.map (·.map OlderDrop.drop)).map some := by
    generalize k.drops = ds at written
    cases written with
    | some each => exact congrArg some (drops_ofValue each)
    | none => rfl
  have id := Layout.foldlM_given killLayout.fields "npcID"
    (fun o => ⟨o, none, none, none, none⟩) rfl rfl (fun _ => rfl)
    (Layout.map_ofValue (numeric_ofValue "i32") k.id)
  have name := Layout.foldlM_given killLayout.fields "npcName"
    (fun o => ⟨k.id, o, none, none, none⟩) rfl rfl (fun _ => rfl)
    (Layout.map_ofValue text_ofValue (some k.name))
  have level := Layout.foldlM_given killLayout.fields "npcLevel"
    (fun o => ⟨k.id, some k.name, o, none, none⟩) rfl rfl (fun _ => rfl)
    (Layout.map_ofValue (numeric_ofValue "i32") k.level)
  have killCount := Layout.foldlM_given killLayout.fields "killCount"
    (fun o => ⟨k.id, some k.name, k.level, o, none⟩) rfl rfl (fun _ => rfl)
    (Layout.map_ofValue (numeric_ofValue "i32") k.killCount)
  have last := Layout.foldlM_given killLayout.fields "drops"
    (fun o => ⟨k.id, some k.name, k.level, k.killCount, o⟩) rfl rfl (fun _ => rfl) decoded
  rw [OlderKill.entries, List.append_assoc, List.append_assoc, List.append_assoc]
  exact (Layout.foldlM_then id).trans <| (Layout.foldlM_then name).trans <|
    (Layout.foldlM_then level).trans <| (Layout.foldlM_then killCount).trans last

theorem kill_ofValue {k : OlderKill} {v : Value} (written : k.WrittenAs v) :
    killLayout.decoder.ofValue v = some k.kill := by
  obtain ⟨drops, each, arranged⟩ := written
  obtain ⟨es, rfl, run⟩ := Layout.arranged_foldlM kill_independent
    (forall_mem_of_all (by decide)) arranged (kill_entries k each)
  rw [ofValue_object, run]
  change some (Kill.mk _ _ _ _ _) = some (Kill.mk _ _ _ _ _)
  congr 2
  cases k.drops <;> rfl

end Older

namespace Current

theorem kill_independent : Independent killLayout.fields := kill_fields_independent

/-- Without an id, no object is a kill of the current layout. -/
theorem kill_refused {es : List (String × Value)} (absent : ∀ e ∈ es, e.1 ≠ "id") :
    killLayout.decoder.ofValue (.object es) = none := by
  refine Layout.refused_unnamed kill_independent List.mem_cons_self rfl ?_ absent
  intro s none
  have unknown : s.id = Option.none := by simpa [Field.of] using none
  simp [killLayout, unknown, need]
  rfl

end Current

namespace OlderKill

theorem entries_names (k : OlderKill) (drops : Option (List Value)) :
    ∀ e ∈ k.entries drops, e.1 ∈ ["npcID", "npcName", "npcLevel", "killCount", "drops"] := by
  intro e member
  simp only [entries, List.mem_append] at member
  rcases member with (((id | name) | level) | killCount) | drops
  · simp [Layout.name_of_given id]
  · simp [Layout.name_of_given name]
  · simp [Layout.name_of_given level]
  · simp [Layout.name_of_given killCount]
  · simp [Layout.name_of_given drops]

variable {k : OlderKill} {v : Value}

theorem WrittenAs.object (h : k.WrittenAs v) :
    ∃ es, v = .object es ∧ ∀ e ∈ es, e.1 ≠ "id" := by
  obtain ⟨drops, _, es, extra, rfl, perm, other⟩ := h
  refine ⟨es, rfl, fun e member id => ?_⟩
  rcases List.mem_append.mp (perm.mem_iff.mp member) with known | unknown
  · have names := k.entries_names drops e known
    rw [id] at names
    revert names
    decide
  · exact other e unknown (by simp [id])

theorem ofValue?_written (h : k.WrittenAs v) :
    StoredKill.ofValue? v = some ⟨k.kill, .older⟩ := by
  obtain ⟨es, rfl, absent⟩ := h.object
  rw [StoredKill.ofValue?, Current.kill_refused absent, Older.kill_ofValue h]
  rfl

end OlderKill

theorem object_trimmed {depth : Nat} {es : List (String × Value)} {text : List Char}
    (h : Spells depth (.ok (.object es)) text) : Text.Trimmed text := by
  rcases h.object_form with ⟨_, gap, rfl⟩ | ⟨_, first, others, rfl, _⟩
  · exact braces_trimmed gap.chars
  · exact braces_trimmed _

/-- Whatever is left out of an older kill, however the rest is arranged and spelled, and whatever
white space stands around it, it is read with the usual values for what is missing; and from its own
line it is read again, in the current layout. -/
theorem older_kill_read (k : OlderKill) {v : Value} {text before after : List Char}
    (written : k.WrittenAs v) (spelled : Spells maxDepth (.ok v) text)
    (hb : ∀ c ∈ before, Text.isBlank c = true) (ha : ∀ c ∈ after, Text.isBlank c = true) :
    StoredKill.ofLine (before ++ text ++ after) = .ok ⟨k.kill, .older⟩ ∧
      StoredKill.ofLine k.kill.line = .ok ⟨k.kill, .current⟩ := by
  obtain ⟨es, object, _⟩ := written.object
  have trimmed : Text.trimChars (before ++ text ++ after) = text := by
    rw [Text.trimChars_surrounded text hb ha]
    exact Text.trimChars_of_trimmed (object_trimmed (object ▸ spelled))
  constructor
  · rw [ofLine_spelled (trimmed.symm ▸ spelled), OlderKill.ofValue?_written written]
  · have none : ∀ c ∈ ([] : List Char), Text.isBlank c = true := nofun
    have line := ofLine_padded k.kill none none
    rwa [List.nil_append, List.append_nil] at line

/-- A kill with a few fields of each kind missing. -/
def sparse : OlderKill where
  name := "A"
  killCount := some ⟨3, by decide, by decide⟩
  drops := some [
    { id := ⟨7, by decide, by decide⟩, price := some ⟨-5, by decide, by decide⟩ },
    { id := ⟨8, by decide, by decide⟩, name := some "B", amount := some ⟨2, by decide, by decide⟩ }]

def sparseDrops : List Value := [
  .object [("quantity", .text ""), ("price", .number (.whole (-5))), ("id", .number (.whole 7))],
  .object [("amount", .number (.whole 2)), ("name", .text "B"), ("id", .number (.whole 8))]]

/-- The fields from last to first, after a key that is not known. -/
def sparseValue : Value :=
  .object [("b/y", .list [.null]), ("drops", .list sparseDrops), ("killCount", .number (.whole 3)),
    ("npcName", .text "A")]

def sparseText : List Char :=
  "\x7b\"b\\/y\" : [null],\"drops\":[\x7b\"quantity\":\"\",\"price\":-5,\"id\":7\x7d,".toList ++
    "\x7b\"amount\":2,\"name\":\"B\",\"id\":8\x7d], \"killCount\":3,\"npcName\" :\"A\"\x7d".toList

theorem sparse_written : sparse.WrittenAs sparseValue := by
  have first : OlderDrop.WrittenAs
      { id := ⟨7, by decide, by decide⟩, price := some ⟨-5, by decide, by decide⟩ }
      sparseDrops[0] := Arranged.backwards _ [("quantity", .text "")] (by simp)
  have second : OlderDrop.WrittenAs
      { id := ⟨8, by decide, by decide⟩, name := some "B", amount := some ⟨2, by decide, by decide⟩ }
      sparseDrops[1] := Arranged.backwards _ [] nofun
  exact ⟨some sparseDrops, .some (.cons first (.cons second .nil)),
    Arranged.backwards _ [("b/y", .list [.null])] (by simp)⟩

/-- Fields in reverse, a key with an escape in it, white space, and keys that belong to neither
layout or to the other. -/
theorem sparse_read :
    (sparse.WrittenAs sparseValue ∧ Spells maxDepth (.ok sparseValue) sparseText ∧
      ∀ c ∈ ['\u2003'], Text.isBlank c = true) ∧
    StoredKill.ofLine (['\u2003'] ++ sparseText ++ ['\u2003']) = .ok ⟨sparse.kill, .older⟩ ∧
      StoredKill.ofLine sparse.kill.line = .ok ⟨sparse.kill, .current⟩ := by
  have spelled : Spells maxDepth (.ok sparseValue) sparseText := spells_of_read rfl rfl
  have blank : ∀ c ∈ ['\u2003'], Text.isBlank c = true := forall_mem_of_all (by decide)
  exact ⟨⟨sparse_written, spelled, blank⟩,
    older_kill_read sparse sparse_written spelled blank blank⟩

end DropLedger
