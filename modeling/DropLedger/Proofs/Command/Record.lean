import DropLedger.Proofs.Command.Invocation
import DropLedger.Proofs.Component
import DropLedger.Proofs.Settings
import DropLedger.Proofs.Store.Requests
import DropLedger.Proofs.Utf8

/-! Runs that record a kill for a player, from the words to the bytes on the disk. What decides
where the kill goes is the name of the player: one that is nothing but dots is refused, and the run
goes on in the root, which is for those who name no player. -/
namespace DropLedger

open Text (trimChars)

namespace Selection

/-- The directory that a run works in for a player. -/
def place (root : Path) (player : String) : Path :=
  if isDots (trimChars player.toList) then root
  else root.child (Utf8.encode (sanitize (Text.trim player).toList))

theorem select_named (s : Selection) (player : String) :
    s.select (named (some player)) = s.select (some player) := by
  rw [named_some]
  split
  · rename_i blank
    rw [select_some, if_pos blank]
    rfl
  · simp only [select_some, Text.trim_trim, Text.trim_toList,
      Text.trimChars_of_trimmed (Text.trimChars_trimmed _)]

theorem place_apart {root : Path} {player : String} {start : Location} {key : String}
    (keyed : PlainName (logName key)) (named : isDots (trimChars player.toList) = false)
    (name : Bytes) :
    goal (root.route start) ++ [name] ≠
      goal (((place root player).child (logName key)).route start) := by
  have dots : isDots (sanitize (Text.trim player).toList) = false := by
    rw [isDots_sanitize, Text.trim_toList]
    exact named
  have inside : place root player = root.child (Utf8.encode (sanitize (Text.trim player).toList)) :=
    if_neg (by simp [named])
  intro same
  rw [Path.goal_child keyed, inside, Path.goal_child (player_plain dots)] at same
  simpa using congrArg List.length same

end Selection

namespace Invocation

variable {settings : Settings} {d : Disk}

/-- Every root that is not empty, every player and every kill that the words behind the command come
to are those of some run. -/
theorem read_record {root : Bytes} {player : String} {words : List Bytes} {kill : Kill}
    (named : root ≠ []) (recorded : readCommand .record words = .ok (.record kill)) :
    read (Flag.root.withValue root :: Flag.player.withValue (Utf8.ofString player) ::
      Utf8.ofString "record" :: words) = .ok ⟨some ⟨root⟩, some player, none, .record kill⟩ := by
  have rooted : Given.take {} .root root = .ok { root := some ⟨root⟩ } := by
    simp [Given.take, Given.once, Given.needPath, named, Except.map, bind, Except.bind, pure,
      Except.pure]
  have owned : Given.take { root := some ⟨root⟩ } .player (Utf8.ofString player) =
      .ok { root := some ⟨root⟩, player := some player } := by
    simp [Given.take, Given.once, Given.needText, Utf8.toString?_ofString, Except.map, bind,
      Except.bind, pure, Except.pure]
  have verb : Verb.named? (Utf8.ofString "record") = some .record := by decide +kernel
  unfold read
  rw [Grammar.run_flag (by decide +kernel) rooted, Grammar.run_flag (by decide +kernel) owned]
  simp [Grammar.run, Grammar.admitsVerb, Progress.awaiting, Grammar.main, Verb.namesCommand, verb,
    recorded, Grammar.finish, Progress.settle, bind, Except.bind, pure, Except.pure]

/-- A store that is opened for a run has changed no file, and is in the directory of the player or,
if the player is refused, in the root. -/
theorem storeOn_cases (settings : Settings) (d : Disk) :
    Disk.Changed (fun _ => True) [] d (storeOn settings d).disk ∧
      ((∃ fault, Selection.select ⟨settings.root, none⟩ settings.player = .error fault ∧
          (storeOn settings d).selection = ⟨settings.root, none⟩) ∨
        ∃ one, Selection.select ⟨settings.root, none⟩ settings.player = .ok one ∧
          (storeOn settings d).selection = one) := by
  unfold storeOn Store.moveTo
  cases chosen : Selection.select ⟨settings.root, none⟩ settings.player with
  | error fault =>
    unfold Store.selectPlayer
    dsimp only
    rw [chosen]
    exact ⟨.refl, .inl ⟨fault, rfl, rfl⟩⟩
  | ok one =>
    obtain ⟨selected, disk⟩ := Store.selectPlayer_chosen
      (s := ⟨d, ⟨settings.root, none⟩, [.started settings.root]⟩) chosen
    dsimp only at selected disk ⊢
    rw [selected, disk]
    refine ⟨?_, .inr ⟨one, rfl, rfl⟩⟩
    exact (Disk.makeDirs_changed d one.directory).mono fun _ _ => trivial

theorem storeOn_place {player : String} (owned : settings.player = Selection.named (some player)) :
    (storeOn settings d).selection.directory = Selection.place settings.root player := by
  obtain ⟨_, chosen⟩ := storeOn_cases settings d
  rw [owned, Selection.select_named, Selection.select_some] at chosen
  unfold Selection.place
  rcases chosen with ⟨fault, refused, selected⟩ | ⟨one, accepted, selected⟩
  · -- Only dots are refused, so the root is where `place` has the player too.
    rw [selected]
    split at refused
    · cases refused
    · split at refused
      · rename_i dots
        exact (if_pos dots).symm
      · cases refused
  · rw [selected]
    split at accepted
    · rename_i blank
      cases accepted
      rw [blank]
      rfl
    · split at accepted
      · cases accepted
      · rename_i dots
        cases accepted
        exact (if_neg dots).symm

theorem settingsOn_player {i : Invocation} {env : Environment} {player : String}
    (owned : i.player = some player) :
    (i.settingsOn env d).1.player = Selection.named (some player) := by
  simp only [settingsOn, owned, Settings.setPlayer]

theorem run_filtered {i : Invocation} {env : Environment} (done : (i.run env d).ending.code = 0) :
    ∃ f before said,
      i.run env d = i.runFiltered (i.settingsOn env d).1 d f before said := by
  unfold run at done ⊢
  generalize Filter.ofEnvironment env = chosen at done ⊢
  rcases chosen with crash | _ | f
  · cases done
  · dsimp only at done ⊢
    generalize Filter.ofSettings (i.settingsOn env d).1 = level at done ⊢
    obtain ⟨crash | f, said⟩ := level
    · cases done
    · exact ⟨f, _, said, rfl⟩
  · exact ⟨f, _, [], rfl⟩

theorem runFiltered_recorded {i : Invocation} {kill : Kill} (asked : i.command = .record kill)
    (f : Filter) (before said : List String) :
    (i.runFiltered settings d f before said).disk = ((storeOn settings d).append kill).2.disk ∧
      (i.runFiltered settings d f before said).ending =
        if ((storeOn settings d).append kill).1 then .done else .failed := by
  simp [runFiltered, asked, Command.run, Command.run.silent, Lines.printed]

theorem run_recorded {i : Invocation} {env : Environment} {kill : Kill}
    (asked : i.command = .record kill) (done : (i.run env d).ending.code = 0) :
    ∃ t, (storeOn (i.settingsOn env d).1 d).append kill = (true, t) ∧
      (i.run env d).disk = t.disk := by
  obtain ⟨f, before, said, filtered⟩ := run_filtered done
  obtain ⟨disk, ending⟩ := runFiltered_recorded asked f before said
  rw [filtered, ending] at done
  rw [filtered, disk]
  cases appended : (storeOn (i.settingsOn env d).1 d).append kill with
  | mk ok t =>
    rw [appended] at done
    cases ok with
    | true => exact ⟨t, rfl, rfl⟩
    | false => cases done

theorem settingsOn_given {i : Invocation} {words : List Bytes} {env : Environment} {root : Path}
    (read : Invocation.read words = .ok i) (given : i.root = some root) :
    (i.settingsOn env d).1.root = root := by
  have named := (Invocation.read_named read).1 root given
  rw [settingsOn_root, given, Option.bind_some, Path.given_eq_some.mpr ⟨rfl, named⟩]
  rfl

end Invocation

/-- One kill more is in the file that a path leads to, and no other file is changed. -/
structure Adds (d e : Disk) (p : Path) (k : Kill) : Prop where
  bytes : e.read p = .ok ((d.fileAt (goal (p.route d.start))).getD [] ++
    freshLine ((d.fileAt (goal (p.route d.start))).getD []) (Log.write [k]))
  kills : (Log.read (e.textOf p)).kills =
    (Log.read ((d.fileAt (goal (p.route d.start))).getD [])).kills ++ [k]
  others : ∀ loc, loc ≠ goal (p.route d.start) → e.fileAt loc = d.fileAt loc

theorem Store.append_adds {s t : Store} {k : Kill} {d : Disk} {p : Path}
    (opened : Disk.Changed (fun _ => True) [] d s.disk) (in_place : s.selection.directory = p)
    (done : s.append k = (true, t)) :
    ∃ key, keyOf? k.name = some key ∧ Adds d t.disk (p.child (logName key)) k := by
  rcases append_cases done with ⟨failed, _⟩ | ⟨_, key, keyed, _, edited⟩
  · cases failed
  · refine ⟨key, keyed, ?_⟩
    have plain := logName_plain (canonical_of_keyOf? keyed)
    have at_log : s.logAt key = goal ((p.child (logName key)).route d.start) := by
      rw [Path.goal_child plain, ← in_place, ← opened.start]
      rfl
    have stored := append_stored keyed done
    have old : s.bytesOf key = (d.fileAt (goal ((p.child (logName key)).route d.start))).getD [] := by
      rw [bytesOf, at_log, opened.fileAt_away rfl]
    rw [edited.selection, Selection.logPath, in_place, old] at stored
    constructor
    · exact stored
    · rw [Disk.textOf, stored]
      exact Log.kills_freshLine _ [k]
    · intro loc other
      rw [edited.disk.fileAt_away (lookup_cons_ne _ _ (at_log ▸ other)), opened.fileAt_away rfl]

/-- A run for a player that records a kill and ends well adds it to the log of its entity, and
changes no other file. The log is in the directory of the player, and then no file that is in the
root itself is changed; only if the name is dots throughout is it in the root. -/
theorem record_lands {words : List Bytes} {env : Environment} {d : Disk} {i : Invocation}
    {player : String} {kill : Kill} (read : Invocation.read words = .ok i)
    (owned : i.player = some player) (asked : i.command = .record kill)
    (done : (run words env d).ending.code = 0) :
    ∃ root key, root = (i.settingsOn env d).1.root ∧
      (∀ given, i.root = some given → root = given) ∧ keyOf? kill.name = some key ∧
      Adds d (run words env d).disk ((Selection.place root player).child (logName key)) kill ∧
      (isDots (trimChars player.toList) = false → ∀ name,
        (run words env d).disk.fileAt (goal (root.route d.start) ++ [name]) =
          d.fileAt (goal (root.route d.start) ++ [name])) := by
  have ran : run words env d = i.run env d := by
    unfold run
    rw [read]
  rw [ran] at done ⊢
  obtain ⟨t, appended, disk⟩ := Invocation.run_recorded asked done
  obtain ⟨opened, _⟩ := Invocation.storeOn_cases (i.settingsOn env d).1 d
  have owner : (i.settingsOn env d).1.player = Selection.named (some player) :=
    Invocation.settingsOn_player owned
  obtain ⟨key, keyed, adds⟩ := Store.append_adds opened (Invocation.storeOn_place owner) appended
  rw [disk]
  refine ⟨(i.settingsOn env d).1.root, key, rfl, ?_, keyed, adds, ?_⟩
  · exact fun _ => Invocation.settingsOn_given read
  · intro named name
    have plain := logName_plain (canonical_of_keyOf? keyed)
    exact adds.others _ (Selection.place_apart plain named name)

/-- A root `x` with one log for all and one log for a player, neither of which ends in a newline. -/
def twoLogs : Disk where
  top := .dir [([0x78], .dir [(logName "ab", .file [0x61]),
    (Utf8.ofString "A_B", .dir [(logName "ab", .file [0x61])])])]
  start := []

def recordFor (player : String) : List Bytes :=
  [Flag.root.withValue [0x78], Flag.player.withValue (Utf8.ofString player), Utf8.ofString "record",
    Utf8.ofString "AB"]

theorem twoLogs_recorded :
    Adds twoLogs (run (recordFor " A/B") ⟨[]⟩ twoLogs).disk
        ((Path.child ⟨[0x78]⟩ (Utf8.ofString "A_B")).child (logName "ab"))
        (Kill.ofEvent "AB" unknown []) ∧
      (run (recordFor " A/B") ⟨[]⟩ twoLogs).disk.fileAt [[0x78], logName "ab"] = some [0x61] := by
  have read : Invocation.read (recordFor " A/B") =
      .ok ⟨some ⟨[0x78]⟩, some " A/B", none, .record (Kill.ofEvent "AB" unknown [])⟩ :=
    Invocation.read_record (by decide) (by decide +kernel)
  have done : (run (recordFor " A/B") ⟨[]⟩ twoLogs).ending.code = 0 := by decide +kernel
  obtain ⟨root, key, _, given, keyed, adds, apart⟩ := record_lands read rfl rfl done
  obtain rfl := given _ rfl
  obtain rfl : "ab" = key := Option.some.inj (Eq.trans (by decide +kernel) keyed)
  have place : Selection.place ⟨[0x78]⟩ " A/B" = Path.child ⟨[0x78]⟩ (Utf8.ofString "A_B") := by
    decide +kernel
  rw [place] at adds
  refine ⟨adds, ?_⟩
  have kept := apart (by decide +kernel) (logName "ab")
  have shared : goal (Path.route ⟨[0x78]⟩ twoLogs.start) ++ [logName "ab"] =
      [[0x78], logName "ab"] := by
    decide +kernel
  rw [shared] at kept
  rw [kept]
  decide +kernel

/-- Dots are a name that is not blank, and yet the kill is in the log for all, and all is well. -/
theorem dots_share :
    Selection.named (some "..") = some ".." ∧
      (run (recordFor "..") ⟨[]⟩ twoLogs).ending = .done ∧
      (run (recordFor "..") ⟨[]⟩ twoLogs).disk.fileAt [[0x78], logName "ab"] =
        some (0x61 :: newline :: Log.write [Kill.ofEvent "AB" unknown []]) := by
  refine ⟨by decide +kernel, by decide +kernel, ?_⟩
  decide +kernel

end DropLedger
