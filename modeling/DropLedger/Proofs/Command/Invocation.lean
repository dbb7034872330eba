import DropLedger.Command.Arguments
import DropLedger.Proofs.Basic

/-! How command lines are read. No path on one is empty: the words that would give one are refused
as soon as they are looked at. An option that has its value with it is taken at once. -/
namespace DropLedger

/-- The paths that were given are not empty. -/
structure Given.Named (g : Given) : Prop where
  root : ∀ path, g.root = some path → path.raw ≠ []
  settings : ∀ path, g.settings = some path → path.raw ≠ []

variable {g h : Given} {p q : Progress} {m : Grammar} {word : Bytes}

theorem Given.needPath_named {flag : Flag} {path : Path} (taken : needPath flag word = .ok path) :
    path.raw ≠ [] := by
  unfold needPath at taken
  split at taken
  · cases taken
  · rename_i some
    cases taken
    simpa using some

theorem Given.once_new {α : Type} {flag : Flag} {old result : Option α} {new : Except UsageFault α}
    (taken : once flag old new = .ok result) : ∃ a, new = .ok a ∧ result = some a := by
  unfold once at taken
  split at taken
  · cases taken
  · cases new with
    | error fault => cases taken
    | ok a =>
      cases taken
      exact ⟨a, rfl, rfl⟩

theorem Given.take_named {flag : Flag} (named : g.Named) (taken : g.take flag word = .ok h) :
    h.Named := by
  unfold take at taken
  cases flag with
  | root =>
    obtain ⟨root, given, done⟩ := bind_eq_ok.mp taken
    cases done
    obtain ⟨path, new, rfl⟩ := once_new given
    constructor
    · rintro other ⟨rfl⟩
      exact needPath_named new
    · exact named.settings
  | settings =>
    obtain ⟨settings, given, done⟩ := bind_eq_ok.mp taken
    cases done
    obtain ⟨path, new, rfl⟩ := once_new given
    constructor
    · exact named.root
    · rintro other ⟨rfl⟩
      exact needPath_named new
  | _ =>
    obtain ⟨_, _, done⟩ := bind_eq_ok.mp taken
    cases done
    exact ⟨named.root, named.settings⟩

theorem Progress.settle_named (named : p.given.Named) (settled : p.settle = .ok q) :
    q.given.Named := by
  unfold settle at settled
  split at settled
  · cases settled
    exact named
  · cases settled
  · obtain ⟨given, taken, done⟩ := bind_eq_ok.mp settled
    cases done
    exact Given.take_named named taken
  · obtain ⟨entity, _, done⟩ := bind_eq_ok.mp settled
    cases done
    exact ⟨named.root, named.settings⟩

namespace Grammar

theorem long_named {name : Bytes} {value : Option Bytes} (named : p.given.Named)
    (read : m.long p name value = .ok q) : q.given.Named := by
  unfold long at read
  split at read
  · split at read
    · cases read
    · rename_i settled
      have later := Progress.settle_named named settled
      split at read
      · cases read
        exact later
      · split at read
        · rename_i taken
          cases read
          exact Given.take_named later taken
        · cases read
  · dsimp only at read
    repeat' split at read
    all_goals cases read

theorem plain_named (named : p.given.Named) (read : m.plain p word = .ok q) : q.given.Named := by
  unfold plain at read
  split at read
  · split at read
    · cases read
    · rename_i settled
      have later := Progress.settle_named named settled
      cases read
      exact later
  · split at read <;> cases read

theorem step_named (named : p.given.Named) (read : m.step p word = .ok q) : q.given.Named := by
  unfold step at read
  split at read
  · exact plain_named named read
  · -- What the word is as a value depends on whether an option waits for one.
    cases awaited : p.awaiting with
    | some flag =>
      simp only [awaited] at read
      split at read
      · cases read
        exact named
      · split at read
        · cases read
          exact named
        · cases read
          exact named
        · exact long_named named read
        · cases read
    | none =>
      simp only [awaited] at read
      split at read
      · exact plain_named named read
      · split at read
        · exact plain_named named read
        · cases read
          exact named
        · exact long_named named read
        · cases read

theorem run_named {words rest : List Bytes} (named : p.given.Named)
    (read : m.run p words = .ok (q, rest)) : q.given.Named := by
  induction words generalizing p with
  | nil =>
    cases read
    exact named
  | cons word words ih =>
    unfold run at read
    split at read
    · cases read
      exact named
    · split at read
      · rename_i next
        exact ih (step_named named next) read
      · cases read

theorem finish_named (named : p.given.Named) (read : finish p = .ok g) : g.Named := by
  unfold finish at read
  split at read
  · rename_i settled
    cases read
    exact Progress.settle_named named settled
  · cases read

end Grammar

theorem Invocation.read_named {words : List Bytes} {i : Invocation} (read : read words = .ok i) :
    (∀ path, i.root = some path → path.raw ≠ []) ∧
      ∀ path, i.settings = some path → path.raw ≠ [] := by
  unfold Invocation.read at read
  obtain ⟨⟨p, rest⟩, ran, read⟩ := bind_eq_ok.mp read
  have named : p.given.Named := Grammar.run_named ⟨by simp, by simp⟩ ran
  cases rest with
  | nil =>
    obtain ⟨_, _, read⟩ := bind_eq_ok.mp read
    cases read
  | cons word rest =>
    dsimp only at read
    split at read
    · cases read
    · obtain ⟨command, _, read⟩ := bind_eq_ok.mp read
      obtain ⟨given, finished, read⟩ := bind_eq_ok.mp read
      cases read
      have last := Grammar.finish_named named finished
      exact ⟨last.root, last.settings⟩

section Options

variable {flag : Flag} {value : Bytes}

/-- A word that has an option together with its value. -/
def Flag.withValue (flag : Flag) (value : Bytes) : Bytes :=
  Utf8.ofString ("--" ++ flag.name) ++ equalsSign :: value

theorem Flag.withValue_hyphen (flag : Flag) (value : Bytes) :
    ∃ rest, flag.withValue value = hyphen :: rest := by
  cases flag <;> exact ⟨_, rfl⟩

theorem Word.of_flag (flag : Flag) (value : Bytes) :
    Word.of (flag.withValue value) = .long (Utf8.ofString flag.name) (some value) := by
  cases flag <;> rfl

theorem Verb.namesCommand_hyphen (rest : Bytes) : Verb.namesCommand (hyphen :: rest) = false := by
  have other (v : Verb) : (Utf8.ofString v.name == hyphen :: rest) = false := by
    cases v <;> rfl
  have help : (hyphen :: rest == Utf8.ofString "help") = false := rfl
  simp [Verb.namesCommand, Verb.named?, other, help]

theorem Grammar.run_flag (admitted : m.flag? (Utf8.ofString flag.name) = some flag)
    (taken : g.take flag value = .ok h) (words : List Bytes) :
    m.run { given := g } (flag.withValue value :: words) = m.run { given := h } words := by
  have stepped : m.step { given := g } (flag.withValue value) = .ok { given := h } := by
    simp [step, Progress.awaitsHyphens, Progress.awaiting, Word.of_flag, long, admitted,
      Progress.settle, taken]
  obtain ⟨rest, begins⟩ := flag.withValue_hyphen value
  rw [begins] at stepped ⊢
  simp [run, Verb.namesCommand_hyphen, stepped]

end Options

end DropLedger
