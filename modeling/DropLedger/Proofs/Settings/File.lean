import DropLedger.Settings.File
import DropLedger.Proofs.Disk.Keys
import DropLedger.Proofs.Disk.Writing
import DropLedger.Proofs.Json.Pretty
import DropLedger.Proofs.Kill.Agreement

/-! Settings in a file, written and read again. All fields are written, so that no default of the
reader shows in them. -/
namespace DropLedger

open Json

namespace Settings

variable {s : Settings} {env : Environment} {d e : Disk} {p : Path}

theorem layout_agrees (env : Environment) : (layout env).decoder.Agrees := by
  apply Layout.agrees
  simp only [layout, List.forall_mem_cons, List.not_mem_nil, false_implies, implies_true, and_true]
  exact ⟨field_agrees (Decoder.map_agrees (Decoder.text_agrees _) Path.ofString) _ _,
    field_agrees (Decoder.optional_agrees (Decoder.text_agrees _)) _ _,
    field_agrees (Decoder.text_agrees _) _ _⟩

/-- What is written of settings whose root is the text. -/
def written (root : String) (player : Option String) (logLevel : String) : Value :=
  .object [
    ("storage_root", .text root),
    ("player", player.elim .null .text),
    ("log_level", .text logLevel)]

theorem toValue?_eq_some {v : Value} :
    s.toValue? = some v ↔
      ∃ root : String, s.root = .ofString root ∧ v = written root s.player s.logLevel := by
  obtain ⟨⟨raw⟩, player, logLevel⟩ := s
  unfold toValue?
  rw [Option.map_eq_some_iff]
  constructor
  · rintro ⟨root, text, rfl⟩
    refine ⟨root, congrArg Path.mk (toString?_eq_some.mp text), ?_⟩
    cases player <;> rfl
  · rintro ⟨root, same, rfl⟩
    refine ⟨root, toString?_eq_some.mpr (congrArg Path.raw same), ?_⟩
    cases player <;> rfl

theorem written_writable (root : String) (player : Option String) (logLevel : String)
    (depth : Nat) : Writable (depth + 1) (written root player logLevel) := by
  refine .object fun e he => ?_
  simp only [List.mem_cons, List.not_mem_nil, or_false] at he
  rcases he with rfl | rfl | rfl
  · exact .text root
  · cases player with
    | none => exact .null
    | some name => exact .text name
  · exact .text logLevel

theorem written_reread (root : String) (player : Option String) (logLevel : String) :
    (written root player logLevel).reread = .ok (written root player logLevel) := by
  cases player <;> rfl

theorem written_ofValue (env : Environment) (root : String) (player : Option String)
    (logLevel : String) :
    (layout env).decoder.ofValue (written root player logLevel) =
      some ⟨.ofString root, player, logLevel⟩ := by
  rw [written, ofValue_object]
  cases player <;>
    simp [layout, Layout.entryOfValue, Field.of, Decoder.map, Decoder.text, Decoder.optional,
      Except.toOption]

/-- Settings laid out over lines are read back, whatever the defaults of the reader are. -/
theorem decode_written (env : Environment) {v : Value} (h : s.toValue? = some v) :
    Json.decode (layout env).decoder (v.pretty 0) = .ok s := by
  obtain ⟨root, at_root, rfl⟩ := toValue?_eq_some.mp h
  have spelled := (written_writable root s.player s.logLevel 126).spelled_pretty 0
  rw [written_reread] at spelled
  have decoded := decode_toOption (layout_agrees env) spelled.read_whole rfl
  rw [written_ofValue, ← at_root] at decoded
  exact toOption_eq_some.mp decoded

/-- The path leads to a file whose text is that of the settings. -/
def StoredAt (env : Environment) (d : Disk) (p : Path) (s : Settings) : Prop :=
  ∃ cs, d.read p = .ok (Utf8.encode cs) ∧ Json.decode (layout env).decoder cs = .ok s

theorem textOf_eq_ok {cs : List Char} :
    textOf d p = .ok cs ↔ d.read p = .ok (Utf8.encode cs) := by
  cases read : d.read p with
  | error cause => simp [textOf, read]
  | ok content =>
    rw [Except.ok.injEq, eq_comm (a := content), ← Utf8.decode_eq_ok]
    unfold textOf
    rw [read]
    dsimp only
    cases Utf8.decode content <;> simp

theorem load_stored (h : StoredAt env d p s) :
    load env d p = (s, .settingsLoaded s.root s.player) := by
  obtain ⟨cs, read, decoded⟩ := h
  have there : d.holds p = true := by
    obtain ⟨r, located, _⟩ := bind_eq_ok.mp read
    unfold Disk.holds
    rw [located]
    rfl
  unfold load
  rw [if_pos there, textOf_eq_ok.mpr read]
  dsimp only
  rw [decoded]

theorem load_unstored (h : ∀ s, ¬ StoredAt env d p s) : (load env d p).1 = defaults env := by
  unfold load
  split
  · cases text : textOf d p with
    | error fault => rfl
    | ok cs =>
      dsimp only
      cases decoded : Json.decode (layout env).decoder cs with
      | error fault => rfl
      | ok s => exact absurd ⟨cs, textOf_eq_ok.mp text, decoded⟩ (h s)
  · rfl

/-- Settings that were saved are in the file, for every reader. -/
theorem save_stored (h : s.save d p = (.ok (), e)) (env : Environment) : StoredAt env e p s := by
  unfold save at h
  split at h
  · cases h
  · rename_i v form
    split at h
    · cases h
    · rename_i f wrote
      cases h
      exact ⟨v.pretty 0, Disk.read_write wrote, decode_written env form⟩

theorem save_succeeds {root : String} {made : Location × Disk} (textual : s.root = .ofString root)
    (creatable : d.clearFile p = .ok made) : ∃ e, s.save d p = (.ok (), e) := by
  have form : s.toValue? = some (written root s.player s.logLevel) :=
    toValue?_eq_some.mpr ⟨root, textual, rfl⟩
  unfold save Disk.write
  rw [form, creatable]
  exact ⟨_, rfl⟩

theorem save_refused (untextual : ∀ root : String, s.root ≠ .ofString root) (d : Disk) (p : Path) :
    s.save d p = (.error .rootNotText, d) := by
  have none : s.toValue? = none := by
    refine Option.eq_none_iff_forall_ne_some.mpr fun v form => ?_
    obtain ⟨root, textual, _⟩ := toValue?_eq_some.mp form
    exact untextual root textual
  unfold save
  rw [none]

/-- Whatever a save fails at, it fails before anything is written. -/
theorem save_failed {fault : StoreFault} (h : s.save d p = (.error fault, e)) : e = d := by
  unfold save at h
  split at h
  · cases h
    rfl
  · split at h
    · cases h
      rfl
    · cases h

/-- Settings whose root is text can be saved wherever a file can be made, and there they are read
again as they were, by a reader in any environment. Settings whose root is no text are refused. A
save that fails leaves the disk that was there. Where no settings can be read, they are exactly the
defaults. -/
theorem settings_kept (s : Settings) (d : Disk) (p : Path) :
    (∀ root : String, s.root = .ofString root → ∀ made, d.clearFile p = .ok made →
        ∃ e, s.save d p = (.ok (), e) ∧
          ∀ env, load env e p = (s, .settingsLoaded s.root s.player)) ∧
      ((∀ root : String, s.root ≠ .ofString root) →
        s.save d p = (.error .rootNotText, d) ∧
          s.autoSave d p = (d, .settingsNotSaved .rootNotText)) ∧
      (∀ fault e, s.save d p = (.error fault, e) → e = d) ∧
      ∀ env, (∀ t, ¬ StoredAt env d p t) → (load env d p).1 = defaults env := by
  refine ⟨?_, ?_, fun _ _ => save_failed, fun env => load_unstored⟩
  · intro root textual made creatable
    obtain ⟨e, saved⟩ := save_succeeds textual creatable
    exact ⟨e, saved, fun env => load_stored (save_stored saved env)⟩
  · intro untextual
    have refused := save_refused untextual d p
    refine ⟨refused, ?_⟩
    unfold autoSave
    rw [refused]

/-- Settings with much to escape. -/
def quoted : Settings where
  root := .ofString "C:\\loots \"a\"\n\x01/\u2028😀"
  player := some "\"Zé\"\t"
  logLevel := "no level"

/-- A disk with a file in place of the settings that holds none. -/
def spoiledFile : Disk where
  top := .dir [(fileName.raw, .file (Utf8.ofString "\x7b not json"))]
  start := []

theorem spoiledFile_unread (env : Environment) (t : Settings) :
    ¬ StoredAt env spoiledFile fileName t := by
  rintro ⟨cs, read, decoded⟩
  have content : spoiledFile.read fileName = .ok (Utf8.encode "\x7b not json".toList) := by
    decide +kernel
  rw [content] at read
  obtain rfl := Utf8.encode_injective (Except.ok.inj read)
  cases decoded

theorem quoted_settings_kept :
    (∃ e, quoted.save spoiledFile fileName = (.ok (), e) ∧
        ∀ env, load env e fileName = (quoted, .settingsLoaded quoted.root quoted.player)) ∧
      ({ quoted with root := ⟨[0xFF]⟩ }.save spoiledFile fileName =
          (.error .rootNotText, spoiledFile) ∧
        { quoted with root := ⟨[0xFF]⟩ }.autoSave spoiledFile fileName =
          (spoiledFile, .settingsNotSaved .rootNotText)) ∧
      ∀ env, (load env spoiledFile fileName).1 = defaults env := by
  refine ⟨(settings_kept quoted spoiledFile fileName).1 _ rfl _ rfl,
    (settings_kept { quoted with root := ⟨[0xFF]⟩ } spoiledFile fileName).2.1 fun root same => ?_,
    fun env => (settings_kept quoted spoiledFile fileName).2.2.2 env (spoiledFile_unread env)⟩
  have decoded : Utf8.toString? [0xFF] = some root :=
    toString?_eq_some.mpr (congrArg Path.raw same)
  cases decoded

end Settings

end DropLedger
