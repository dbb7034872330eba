import DropLedger.Store.Queue
import DropLedger.Proofs.Store.Run

/-! Requests that wait. However submitting and carrying out alternate, the requests are carried out
in the order in which they were submitted, each of them once, and one that fails holds up none of
those behind it. In the end the store is what it is when the operations are called directly. -/
namespace DropLedger

namespace Store

/-- The store after its operations were called directly, one after the other, as requests say. -/
def directly (s : Store) : List Request → Store
  | [] => s
  | .selectPlayer player :: rs => (s.selectPlayer player).2.directly rs
  | .append kill :: rs => (s.append kill).2.directly rs
  | .replace entity kills :: rs => (s.replace entity kills).2.directly rs
  | .amendLast entity drops :: rs => (s.amendLast entity drops).2.directly rs
  | .delete entity :: rs => (s.delete entity).2.directly rs
  | .migrate entity :: rs => (s.migrate entity).2.directly rs

theorem run_eq_directly (s : Store) (rs : List Request) : s.run rs = s.directly rs := by
  induction rs generalizing s with
  | nil => rfl
  | cons r rs ih => cases r <;> exact ih _

theorem directly_append (s : Store) (rs others : List Request) :
    s.directly (rs ++ others) = (s.directly rs).directly others := by
  simp only [← run_eq_directly]
  exact List.foldl_append

end Store

/-- What happens next to a queue: a request is submitted, or the oldest that waits is carried
out. -/
inductive Turn where
  | submit (r : Request)
  | advance
deriving DecidableEq

def Turn.request? : Turn → Option Request
  | .submit r => some r
  | .advance => none

/-- The requests that are submitted in some turns, in their order. -/
def submitted (turns : List Turn) : List Request := turns.filterMap Turn.request?

namespace Queue

/-- The queue after some turns, and what each submission was answered. -/
def take (q : Queue) : List Turn → List Bool × Queue
  | [] => ([], q)
  | .submit r :: turns =>
    let (taken, q) := q.submit r
    let (others, q) := q.take turns
    (taken :: others, q)
  | .advance :: turns => q.advance.take turns

/-- Of the requests, the first ones have been carried out on the store, and the others wait. -/
def Carries (q : Queue) (s : Store) (rs : List Request) : Prop :=
  ∃ done, rs = done ++ q.waiting ∧ q.store = s.directly done

/-- No more requests are taken, but those that wait are still to be carried out. -/
def close (q : Queue) : Queue := { q with stopped := true }

variable {q : Queue} {s : Store} {rs : List Request}

theorem submit_open (opened : q.stopped = false) (r : Request) :
    q.submit r = (true, { q with waiting := q.waiting ++ [r] }) := by
  rw [submit, opened]
  rfl

theorem advance_waiting (q : Queue) : q.advance.waiting = q.waiting.tail := by
  unfold advance
  split
  · rename_i empty
    rw [empty]
    rfl
  · rename_i r rest some
    rw [some]
    rfl

theorem advance_stopped (q : Queue) : q.advance.stopped = q.stopped := by
  unfold advance
  split <;> rfl

theorem Carries.submit (h : q.Carries s rs) (opened : q.stopped = false) (r : Request) :
    (q.submit r).2.Carries s (rs ++ [r]) := by
  obtain ⟨done, rfl, at_store⟩ := h
  rw [submit_open opened]
  exact ⟨done, List.append_assoc _ _ _, at_store⟩

/-- Carrying out a request moves it from those that wait to those that are done, whatever comes of
it. -/
theorem Carries.advance (h : q.Carries s rs) : q.advance.Carries s rs := by
  obtain ⟨done, rfl, at_store⟩ := h
  unfold Queue.advance
  split
  · exact ⟨done, rfl, at_store⟩
  · rename_i r rest waiting
    refine ⟨done ++ [r], by simp [waiting], ?_⟩
    rw [Store.directly_append, ← at_store]
    exact Store.run_eq_directly q.store [r]

theorem take_carries (h : q.Carries s rs) (opened : q.stopped = false) (turns : List Turn) :
    (q.take turns).1 = (submitted turns).map (fun _ => true) ∧
      (q.take turns).2.stopped = false ∧
      (q.take turns).2.Carries s (rs ++ submitted turns) := by
  induction turns generalizing q rs with
  | nil =>
    refine ⟨rfl, opened, ?_⟩
    rw [submitted, List.filterMap_nil, List.append_nil]
    exact h
  | cons turn turns ih =>
    cases turn with
    | advance => exact ih h.advance (by rw [advance_stopped, opened])
    | submit r =>
      have taken := submit_open opened r
      have later := h.submit opened r
      rw [taken] at later
      obtain ⟨answers, still, carries⟩ := ih later opened
      rw [List.append_assoc] at carries
      refine ⟨?_, ?_, ?_⟩ <;> simp only [take, taken]
      · rw [answers]
        rfl
      · exact still
      · exact carries

section Stop

theorem Carries.iterate (h : q.Carries s rs) (n : Nat) : (Queue.advance^[n] q).Carries s rs := by
  induction n generalizing q with
  | zero => exact h
  | succ n ih => exact ih h.advance

theorem iterate_waiting (q : Queue) (n : Nat) :
    (advance^[n] q).waiting = q.waiting.drop n := by
  induction n generalizing q with
  | zero => rfl
  | succ n ih => rw [Function.iterate_succ_apply, ih, advance_waiting, List.drop_tail]

theorem iterate_stopped (q : Queue) (n : Nat) : (advance^[n] q).stopped = q.stopped := by
  induction n generalizing q with
  | zero => rfl
  | succ n ih => rw [Function.iterate_succ_apply, ih, advance_stopped]

theorem Carries.stop (h : q.Carries s rs) : q.stop = ⟨s.directly rs, [], true⟩ := by
  obtain ⟨done, rfl, at_store⟩ := h
  have all : q.waiting.foldl (fun s r => (s.perform r).2) q.store =
      s.directly (done ++ q.waiting) := by
    rw [Store.directly_append, ← at_store]
    exact Store.run_eq_directly q.store q.waiting
  rw [Queue.stop, all]

/-- With nothing left to wait, a queue that was closed is the queue that was stopped at once. -/
theorem Carries.drained (h : q.Carries s rs) (closed : q.stopped = true)
    (empty : q.waiting = []) : q = ⟨s.directly rs, [], true⟩ := by
  obtain ⟨done, rfl, at_store⟩ := h
  obtain ⟨store, waiting, stopped⟩ := q
  cases closed
  cases empty
  rw [List.append_nil]
  exact congrArg (Queue.mk · [] true) at_store

end Stop

/-- However submitting and carrying out alternate before a queue is stopped, each request is taken,
and what was done so far is what comes of calling the operations of the first of them. After it was
closed, the requests that are left are carried out one by one, and it comes to an end with the last
of them and not before; then all were carried out, and stopping it again changes nothing. A request
always comes to a store, so there is nothing that could end the work early. -/
theorem submissions_in_order (s : Store) (turns : List Turn) :
    let (answers, q) := (Queue.mk s [] false).take turns
    answers = (submitted turns).map (fun _ => true) ∧
      q.stopped = false ∧ q.Carries s (submitted turns) ∧
      (∀ n, (advance^[n] q.close).Carries s (submitted turns) ∧
        ((advance^[n] q.close).waiting = [] ↔ q.waiting.length ≤ n) ∧
        (advance^[n] q.close = q.stop ↔ q.waiting.length ≤ n)) ∧
      q.stop.store = s.directly (submitted turns) ∧ q.stop.stop = q.stop ∧
      ∀ r, q.stop.submit r = (false, q.stop) := by
  have fresh : (Queue.mk s [] false).Carries s [] := ⟨[], rfl, rfl⟩
  obtain ⟨answers, opened, carries⟩ := take_carries fresh rfl turns
  rw [List.nil_append] at carries
  generalize (Queue.mk s [] false).take turns = after at answers opened carries
  obtain ⟨taken, q⟩ := after
  have stopped := carries.stop
  refine ⟨answers, opened, carries, ?_, ?_, ?_, ?_⟩
  · intro n
    have closed : q.close.Carries s (submitted turns) := carries
    have going := closed.iterate n
    have waiting : (advance^[n] q.close).waiting = [] ↔ q.waiting.length ≤ n := by
      rw [iterate_waiting]
      exact List.drop_eq_nil_iff
    refine ⟨going, waiting, ?_⟩
    rw [← waiting, stopped]
    constructor
    · intro ended
      rw [ended]
    · exact going.drained (iterate_stopped _ n)
  · rw [stopped]
  · rw [stopped]
    rfl
  · rw [stopped]
    exact fun _ => rfl

def unwritten : Store where
  disk := ⟨.dir [], [], []⟩
  selection := ⟨⟨[0x78]⟩, none⟩

/-- A request that fails stands between two kills. -/
def mixedTurns : List Turn :=
  [.submit (.append (Kill.ofEvent "AB" unknown [])), .submit (.delete ".."), .advance,
    .submit (.append (Kill.ofEvent "ab" unknown []))]

theorem mixedTurns_done :
    (unwritten.load "ab").1 = [] ∧ (unwritten.perform (.delete "..")).1 = false ∧
      (((Queue.mk unwritten [] false).take mixedTurns).2.stop.store.load "ab").1 =
        [Kill.ofEvent "AB" unknown [], Kill.ofEvent "ab" unknown []] := by
  have stopped : ((Queue.mk unwritten [] false).take mixedTurns).2.stop.store =
      unwritten.directly (submitted mixedTurns) :=
    (submissions_in_order unwritten mixedTurns).2.2.2.2.1
  rw [stopped]
  exact ⟨by decide +kernel, by decide +kernel, by decide +kernel⟩

end Queue

end DropLedger
