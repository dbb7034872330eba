import DropLedger.Proofs.Store.Requests

/-! Runs of requests. Whatever the requests come to, the root of the store stays where it is. -/
namespace DropLedger.Store

/-- The store after requests, whether they succeeded or not. -/
def run (s : Store) (rs : List Request) : Store := rs.foldl (fun s r => (s.perform r).2) s

/-- The root is where its path leads: no step on the way leaves a directory that is missing. -/
structure Sound (s : Store) : Prop where
  proper : s.selection.Proper
  settled : s.disk.Settled (s.selection.root.route s.disk.start)

/-- A root that is there is where its path leads. -/
theorem settled_of_isDir {d : Disk} {p : Path} (h : d.isDir p = true) :
    d.Settled (p.route d.start) := by
  unfold Disk.isDir at h
  cases located : d.locate p with
  | error cause =>
    rw [located] at h
    cases h
  | ok r => exact (Disk.locate_sound located).2.1

variable {s t : Store} {edits : List (Location × Option Bytes)}

section Outcome

/-- The content that a request puts into the log of a key. -/
def Puts (s : Store) (key : String) (content : Bytes) : Request → Prop
  | .append kill =>
    keyOf? kill.name = some key ∧
      content = s.bytesOf key ++ freshLine (s.bytesOf key) (Log.write [kill])
  | .replace entity kills => keyOf? entity = some key ∧ content = Log.write kills
  | .amendLast entity drops =>
    keyOf? entity = some key ∧ drops.isEmpty = false ∧
      if s.recorded key = [] then
        content = s.bytesOf key ++ freshLine (s.bytesOf key)
          (Log.write (withDrops entity drops []))
      else content = Log.write (withDrops entity drops (s.recorded key))
  | .migrate entity =>
    keyOf? entity = some key ∧ s.olderIn key ≠ 0 ∧ content = Log.write (s.recorded key)
  | _ => False

/-- The files of the selected directory that requests work on. -/
def OwnFile (s : Store) (loc : Location) : Prop := ∃ key, loc = s.logAt key ∨ loc = s.spareAt key

/-- There is nothing to do for a request. -/
def Idle (s : Store) : Request → Prop
  | .amendLast _ drops => drops.isEmpty = true
  | .delete entity =>
    ∃ key, keyOf? entity = some key ∧
      ∀ content, s.disk.read (s.selection.logPath key) ≠ .ok content
  | .migrate _ => True
  | _ => False

/-- What a request may come to. -/
inductive Outcome (s t : Store) : Request → Bool → Prop where
  | selected {player : Option String} {selection : Selection} (b : Bool)
      (chosen : s.selection.select player = .ok selection) (now : t.selection = selection)
      (made : Disk.Changed (Disk.Toward selection.directory s.disk.start) [] s.disk t.disk) :
      Outcome s t (.selectPlayer player) b
  | failed {r : Request} (kept : s.Failed t) : Outcome s t r false
  | idle {r : Request} (nothing : s.Idle r) (kept : s.Edited t []) : Outcome s t r true
  | put {r : Request} {key : String} {content : Bytes} {edits : List (Location × Option Bytes)}
      (puts : s.Puts key content r) (fits : s.Fits key)
      (spare : edits = [] ∨ edits = [(s.spareAt key, none)])
      (edited : s.Edited t ((s.logAt key, some content) :: edits)) : Outcome s t r true
  | removed {entity key : String} (keyed : keyOf? entity = some key)
      (edited : s.Edited t [(s.logAt key, none)]) : Outcome s t (.delete entity) true

theorem perform_cases {r : Request} {b : Bool} (h : s.perform r = (b, t)) : Outcome s t r b := by
  cases r with
  | selectPlayer player =>
    rcases selectPlayer_cases h with ⟨rfl, kept⟩ | ⟨selection, chosen, now, made⟩
    · exact .failed (.inl kept)
    · exact .selected b chosen now made
  | append kill =>
    rcases append_cases h with ⟨rfl, kept⟩ | ⟨rfl, key, keyed, fits, edited⟩
    · exact .failed (.inl kept)
    · exact .put ⟨keyed, rfl⟩ fits (.inl rfl) edited
  | replace entity kills =>
    rcases replace_done h with ⟨rfl, failed⟩ | ⟨rfl, key, keyed, fits, edited⟩
    · exact .failed failed.failed
    · exact .put ⟨keyed, rfl⟩ fits (.inr rfl) edited
  | amendLast entity drops =>
    rcases amendLast_cases h with ⟨rfl, failed⟩ | ⟨rfl, none_given, kept⟩ |
      ⟨rfl, some_given, key, keyed, fits, ⟨empty, edited⟩ | ⟨some, edited⟩⟩
    · exact .failed failed.failed
    · exact .idle none_given kept
    · exact .put ⟨keyed, some_given, by rw [if_pos empty]; rfl⟩ fits (.inl rfl) edited
    · exact .put ⟨keyed, some_given, by rw [if_neg some]⟩ fits (.inr rfl) edited
  | delete entity =>
    rcases delete_cases h with ⟨rfl, kept⟩ | ⟨rfl, key, keyed, edited | ⟨kept, unread⟩⟩
    · exact .failed (.inl kept)
    · exact .removed keyed edited
    · exact .idle ⟨key, keyed, unread⟩ kept
  | migrate entity =>
    rcases migrate_cases h with ⟨rfl, failed⟩ | ⟨rfl, key, keyed, kept | ⟨older, fits, edited⟩⟩
    · exact .failed failed.failed
    · exact .idle trivial kept
    · exact .put ⟨keyed, older, rfl⟩ fits (.inr rfl) edited

end Outcome

theorem Sound.edited (sound : s.Sound) (h : s.Edited t edits) :
    t.Sound ∧ t.selection.root = s.selection.root := by
  rw [h.selection]
  refine ⟨⟨by rw [h.selection]; exact sound.proper, ?_⟩, rfl⟩
  rw [h.selection, h.disk.start]
  exact h.disk.settled sound.settled

/-- A request edits files of the selected directory, or a player is selected and no file is
edited. -/
theorem perform_edits {r : Request} {b : Bool} (h : s.perform r = (b, t)) :
    (∃ edits, s.Edited t edits ∧ ∀ edit ∈ edits, s.OwnFile edit.1) ∨
      ∃ player selection, r = .selectPlayer player ∧ s.selection.select player = .ok selection ∧
        t.selection = selection ∧
        Disk.Changed (Disk.Toward selection.directory s.disk.start) [] s.disk t.disk := by
  have log : ∀ key, s.OwnFile (s.logAt key) := fun key => ⟨key, .inl rfl⟩
  have spare : ∀ key, s.OwnFile (s.spareAt key) := fun key => ⟨key, .inr rfl⟩
  cases perform_cases h with
  | selected _ chosen now made => exact .inr ⟨_, _, rfl, chosen, now, made⟩
  | failed kept =>
    rcases kept with kept | ⟨key, spared⟩
    · exact .inl ⟨_, kept, by simp⟩
    · exact .inl ⟨_, spared, by simp [spare]⟩
  | idle _ kept => exact .inl ⟨_, kept, by simp⟩
  | put _ _ others edited =>
    refine .inl ⟨_, edited, ?_⟩
    rcases others with rfl | rfl
    · simp [log]
    · simp [log, spare]
  | removed _ edited => exact .inl ⟨_, edited, by simp [log]⟩

theorem perform_changed {r : Request} {b : Bool} (h : s.perform r = (b, t)) :
    ∃ new edits, Disk.Changed new edits s.disk t.disk := by
  rcases perform_edits h with ⟨_, edited, _⟩ | ⟨_, _, _, _, _, made⟩
  · exact ⟨_, _, edited.disk⟩
  · exact ⟨_, _, made⟩

theorem perform_fileAt {r : Request} {b : Bool} {loc : Location} (h : s.perform r = (b, t))
    (other : ¬s.OwnFile loc) : t.disk.fileAt loc = s.disk.fileAt loc := by
  rcases perform_edits h with ⟨_, edited, own⟩ | ⟨_, _, _, _, _, made⟩
  · exact edited.disk.fileAt_outside own other
  · exact made.fileAt_away rfl

theorem perform_start {r : Request} {b : Bool} (h : s.perform r = (b, t)) :
    t.disk.start = s.disk.start := by
  obtain ⟨_, _, changed⟩ := perform_changed h
  exact changed.start

theorem perform_selection {r : Request} {b : Bool} (proper : s.selection.Proper)
    (h : s.perform r = (b, t)) :
    t.selection.Proper ∧ t.selection.root = s.selection.root := by
  rcases perform_edits h with ⟨_, edited, _⟩ | ⟨_, _, _, chosen, now, _⟩
  · rw [edited.selection]
    exact ⟨proper, rfl⟩
  · obtain ⟨accepted, root⟩ := Selection.select_accepted chosen
    rw [now]
    exact ⟨accepted.proper, root⟩

/-- Whatever a request comes to, the root stays where it is. -/
theorem perform_sound (sound : s.Sound) {r : Request} {b : Bool} (h : s.perform r = (b, t)) :
    t.Sound ∧ t.selection.root = s.selection.root := by
  obtain ⟨_, _, changed⟩ := perform_changed h
  obtain ⟨proper, root⟩ := perform_selection sound.proper h
  refine ⟨⟨proper, ?_⟩, root⟩
  rw [root, changed.start]
  exact changed.settled sound.settled

theorem run_snoc (s : Store) (rs : List Request) (r : Request) :
    s.run (rs ++ [r]) = ((s.run rs).perform r).2 := by
  simp [run]

theorem run_sound (sound : s.Sound) (rs : List Request) :
    (s.run rs).Sound ∧ (s.run rs).selection.root = s.selection.root := by
  induction rs generalizing s with
  | nil => exact ⟨sound, rfl⟩
  | cons r rs ih =>
    obtain ⟨next, root⟩ := perform_sound sound (r := r) rfl
    obtain ⟨last, same⟩ := ih next
    exact ⟨last, same.trans root⟩

end DropLedger.Store
