import DropLedger.Command.Run
import DropLedger.Proofs.Basic

/-! The root that settings come to. The last call that brings one decides. Calls that set a root
pass over the empty path, but a file is taken as it is: it alone can leave an empty root, which
stands for the working directory. -/
namespace DropLedger

open Json (Layout)

section Decoding

variable {σ α : Type} {l : Layout σ σ} (total : ∀ s, l.finish s = .ok s)
include total

/-- A layout of which no field has to be there is decoded before its fields are put together. -/
theorem decode_finish (f : σ → α) (cs : List Char) :
    Json.decode (Layout.decoder ⟨l.title, l.start, l.fields, fun s => .ok (f s)⟩) cs =
      (Json.decode l.decoder cs).map f := by
  have ends (r : Except Json.Fault (σ × List Char)) :
      ((r >>= fun x => pure (f x.1, x.2)) >>= fun x => Json.finish x.2 >>= fun _ => pure x.1) =
        ((r >>= fun x => l.close x.1 >>= fun s => pure (s, x.2)) >>= fun x =>
          Json.finish x.2 >>= fun _ => pure x.1).map f := by
    cases r with
    | error fault => rfl
    | ok read =>
      obtain ⟨s, rest⟩ := read
      have closed : l.close s = .ok s := by simp [Layout.close, total]
      simp only [bind, Except.bind, pure, Except.pure, closed]
      cases Json.finish rest <;> rfl
  unfold Json.decode Layout.decoder
  dsimp only
  split
  · exact ends _
  · exact ends _
  · rfl

end Decoding

/-- A path, unless it is empty. -/
def Path.given (p : Path) : Option Path := if p.raw.isEmpty then none else some p

theorem Path.given_eq_some {p q : Path} : p.given = some q ↔ p = q ∧ p.raw ≠ [] := by
  unfold Path.given
  split <;> simp_all

/-- The root in the environment, unless it is empty or no text. -/
def Environment.root? (env : Environment) : Option Path :=
  (env.text? Environment.rootVariable).bind fun root => (Path.ofString root).given

theorem Environment.root?_named {env : Environment} {root : Path} (h : env.root? = some root) :
    root.raw ≠ [] := by
  obtain ⟨_, _, given⟩ := Option.bind_eq_some_iff.mp h
  obtain ⟨rfl, named⟩ := Path.given_eq_some.mp given
  exact named

theorem Environment.defaultRoot_ne_nil (env : Environment) : env.defaultRoot.raw ≠ [] := by
  unfold Environment.defaultRoot Path.child
  split <;> simp [Utf8.ofString, Utf8.encode, Utf8.encodeChar]

namespace Settings

def draftLayout : Layout SettingsDraft SettingsDraft := { layout ⟨[]⟩ with finish := .ok }

/-- The root that a file has, be it empty or not. -/
def rootIn (d : Disk) (p : Path) : Option Path :=
  if d.holds p then
    match textOf d p with
    | .error _ => none
    | .ok cs =>
      match Json.decode draftLayout.decoder cs with
      | .error _ => none
      | .ok s => s.root
  else none

/-- A call that changes settings. A file is read anew and replaces all of them. -/
inductive Call where
  | setRoot (root : Path)
  | setPlayer (player : Option String)
  | applyEnvironment (env : Environment)
  | load (env : Environment) (disk : Disk) (path : Path)

def call (s : Settings) : Call → Settings
  | .setRoot root => s.setRoot root
  | .setPlayer player => s.setPlayer player
  | .applyEnvironment env => s.applyEnvironment env
  | .load env disk path => (Settings.load env disk path).1

def calls (s : Settings) (cs : List Call) : Settings := cs.foldl call s

/-- The root that a call brings, if it brings one. -/
def Call.root? : Call → Option Path
  | .setRoot root => root.given
  | .setPlayer _ => none
  | .applyEnvironment env => env.root?
  | .load env disk path => some ((rootIn disk path).getD env.defaultRoot)

variable {s : Settings}

theorem setRoot_root (s : Settings) (root : Path) : (s.setRoot root).root = root.given.getD s.root := by
  unfold setRoot Path.given
  split <;> rfl

theorem applyEnvironment_root (s : Settings) (env : Environment) :
    (s.applyEnvironment env).root = env.root?.getD s.root := by
  unfold applyEnvironment Environment.root?
  cases env.text? Environment.rootVariable with
  | none => rfl
  | some root => exact setRoot_root s _

theorem load_root (env : Environment) (d : Disk) (p : Path) :
    (load env d p).1.root = (rootIn d p).getD env.defaultRoot := by
  have decoded (cs : List Char) := decode_finish (l := draftLayout) (fun _ => rfl)
    (fun s : SettingsDraft => (⟨s.root.getD (defaults env).root, s.player.getD (defaults env).player,
      s.logLevel.getD (defaults env).logLevel⟩ : Settings)) cs
  unfold load rootIn
  split
  · cases textOf d p with
    | error fault => rfl
    | ok cs =>
      have decoded := decoded cs
      change Json.decode (layout env).decoder cs = _ at decoded
      dsimp only
      rw [decoded]
      cases Json.decode draftLayout.decoder cs <;> rfl
  · rfl

theorem call_root (s : Settings) (c : Call) : (s.call c).root = c.root?.getD s.root := by
  cases c with
  | setRoot root => exact setRoot_root s root
  | setPlayer player => rfl
  | applyEnvironment env => exact applyEnvironment_root s env
  | load env disk path => exact load_root env disk path

/-- The last call that brings a root decides. -/
theorem calls_root (s : Settings) (cs : List Call) :
    (s.calls cs).root = (cs.filterMap Call.root?).getLast?.getD s.root := by
  induction cs generalizing s with
  | nil => rfl
  | cons c cs ih =>
    have first := call_root s c
    change ((s.call c).calls cs).root = _
    rw [ih, first]
    cases brought : c.root? with
    | none => simp [brought]
    | some root => simp [brought, List.getLast?_cons]

theorem Call.blank {c : Call} {root : Path} (brought : c.root? = some root) (blank : root.raw = []) :
    ∃ env disk path, c = .load env disk path ∧ rootIn disk path = some root := by
  cases c with
  | setRoot given =>
    obtain ⟨rfl, named⟩ := Path.given_eq_some.mp brought
    exact absurd blank named
  | setPlayer player => cases brought
  | applyEnvironment env => exact absurd blank (Environment.root?_named brought)
  | load env disk path =>
    refine ⟨env, disk, path, rfl, ?_⟩
    have whole : (rootIn disk path).getD env.defaultRoot = root := Option.some.inj brought
    cases found : rootIn disk path with
    | none =>
      rw [found] at whole
      rw [← whole] at blank
      exact absurd blank env.defaultRoot_ne_nil
    | some given =>
      rw [found] at whole
      rw [← whole]
      rfl

theorem calls_blank (env : Environment) (cs : List Call) :
    ((defaults env).calls cs).root.raw = [] ↔
      ∃ before env' disk path after, cs = before ++ .load env' disk path :: after ∧
        rootIn disk path = some ⟨[]⟩ ∧ ∀ c ∈ after, c.root? = none := by
  rw [calls_root, List.getLast?_filterMap]
  constructor
  · intro blank
    cases last : cs.reverse.findSome? Call.root? with
    | none =>
      rw [last] at blank
      exact absurd blank env.defaultRoot_ne_nil
    | some root =>
      rw [last] at blank
      obtain ⟨later, c, earlier, whole, brought, silent⟩ := List.findSome?_eq_some_iff.mp last
      obtain ⟨env', disk, path, rfl, found⟩ := Call.blank brought blank
      refine ⟨earlier.reverse, env', disk, path, later.reverse, ?_, ?_, by simpa using silent⟩
      · rw [← List.reverse_reverse cs, whole]
        simp
      · obtain ⟨raw⟩ := root
        rw [found]
        exact congrArg (some ∘ Path.mk) blank
  · rintro ⟨before, env', disk, path, after, rfl, found, silent⟩
    have last : (before ++ .load env' disk path :: after).reverse.findSome? Call.root? =
        some ⟨[]⟩ := by
      refine List.findSome?_eq_some_iff.mpr
        ⟨after.reverse, .load env' disk path, before.reverse, by simp, ?_, by simpa using silent⟩
      simp [Call.root?, found]
    rw [last]
    rfl

end Settings

theorem Invocation.settingsOn_root (i : Invocation) (env : Environment) (d : Disk) :
    (i.settingsOn env d).1.root = (((i.root.bind Path.given).or env.root?).or
      (Settings.rootIn d (i.settings.getD Settings.fileName))).getD env.defaultRoot := by
  have read := Settings.load_root env d (i.settings.getD Settings.fileName)
  generalize loaded : (Settings.load env d (i.settings.getD Settings.fileName)).1 = s at read
  have settled : (i.settingsOn env d).1.root =
      (i.root.elim (s.applyEnvironment env) (s.applyEnvironment env).setRoot).root := by
    unfold settingsOn
    dsimp only
    rw [loaded]
    cases i.root <;> cases i.player <;> rfl
  rw [settled]
  cases i.root with
  | none =>
    dsimp only [Option.elim]
    rw [Settings.applyEnvironment_root, read]
    cases env.root? <;> rfl
  | some root =>
    dsimp only [Option.elim]
    rw [Settings.setRoot_root, Settings.applyEnvironment_root, read]
    cases named : root.given <;> cases env.root? <;> simp [named]

theorem Invocation.settingsOn_blank (i : Invocation) (env : Environment) (d : Disk) :
    (i.settingsOn env d).1.root.raw = [] ↔
      i.root.bind Path.given = none ∧ env.root? = none ∧
        Settings.rootIn d (i.settings.getD Settings.fileName) = some ⟨[]⟩ := by
  have spoken {root : Path} (h : i.root.bind Path.given = some root) : root.raw ≠ [] := by
    obtain ⟨_, _, given⟩ := Option.bind_eq_some_iff.mp h
    obtain ⟨rfl, named⟩ := Path.given_eq_some.mp given
    exact named
  rw [settingsOn_root]
  cases words : i.root.bind Path.given with
  | some root => simpa using spoken words
  | none =>
    cases variable_root : env.root? with
    | some root => simpa using Environment.root?_named variable_root
    | none =>
      cases Settings.rootIn d (i.settings.getD Settings.fileName) with
      | none => simpa using env.defaultRoot_ne_nil
      | some root =>
        obtain ⟨raw⟩ := root
        simp

/-- Settings have the root that was brought last, by whatever calls, and the default if none was; it
is empty if and only if the last was that of a file in which it is empty. A run has the first root
there is of that in the words, that in the environment and that in the file, the first two of them
only if they are not empty; it is empty if and only if the file has an empty one and neither the
words nor the environment have another. -/
theorem roots_decided (env : Environment) (cs : List Settings.Call) (i : Invocation) (d : Disk) :
    ((Settings.defaults env).calls cs).root =
        (cs.filterMap Settings.Call.root?).getLast?.getD env.defaultRoot ∧
      (((Settings.defaults env).calls cs).root.raw = [] ↔
        ∃ before env' disk path after, cs = before ++ .load env' disk path :: after ∧
          Settings.rootIn disk path = some ⟨[]⟩ ∧ ∀ c ∈ after, c.root? = none) ∧
      (i.settingsOn env d).1.root = (((i.root.bind Path.given).or env.root?).or
        (Settings.rootIn d (i.settings.getD Settings.fileName))).getD env.defaultRoot ∧
      ((i.settingsOn env d).1.root.raw = [] ↔
        i.root.bind Path.given = none ∧ env.root? = none ∧
          Settings.rootIn d (i.settings.getD Settings.fileName) = some ⟨[]⟩) :=
  ⟨Settings.calls_root _ cs, Settings.calls_blank env cs, i.settingsOn_root env d,
    i.settingsOn_blank env d⟩

def blankRootFile : Disk where
  top := .dir [(Settings.fileName.raw, .file (Utf8.ofString "\x7b\"storage_root\":\"\"\x7d"))]
  start := []

/-- The file has an empty root, and the log is in the working directory. -/
theorem blankRootFile_recorded :
    (Settings.load ⟨[]⟩ blankRootFile Settings.fileName).1.root = ⟨[]⟩ ∧
      (run [Utf8.ofString "record", Utf8.ofString "AB"] ⟨[]⟩ blankRootFile).ending = .done ∧
      (run [Utf8.ofString "record", Utf8.ofString "AB"] ⟨[]⟩ blankRootFile).disk.read
          ⟨logName "ab"⟩ = .ok (Log.write [Kill.ofEvent "AB" unknown []]) := by
  refine ⟨by decide +kernel, by decide +kernel, ?_⟩
  decide +kernel

end DropLedger
