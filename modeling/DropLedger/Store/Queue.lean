import DropLedger.Store.Writing

/-! Requests that wait for a store. They are carried out one by one, the oldest first. -/
namespace DropLedger

inductive Request where
  | selectPlayer (player : Option String)
  | append (kill : Kill)
  | replace (entity : String) (kills : List Kill)
  | amendLast (entity : String) (drops : List Drop)
  | delete (entity : String)
  | migrate (entity : String)
deriving DecidableEq, Repr

/-- Carries out one request. A request that fails is reported and done with. -/
def Store.perform (s : Store) : Request → Bool × Store
  | .selectPlayer player => s.selectPlayer player
  | .append kill => s.append kill
  | .replace entity kills => s.replace entity kills
  | .amendLast entity drops => s.amendLast entity drops
  | .delete entity => s.delete entity
  | .migrate entity => s.migrate entity

/-- A queue before a store. A stopped queue takes no more requests. -/
structure Queue where
  store : Store
  waiting : List Request := []
  stopped : Bool := false

namespace Queue

/-- Puts a request behind those that wait. It is not waited for. -/
def submit (q : Queue) (r : Request) : Bool × Queue :=
  if q.stopped then (false, q) else (true, { q with waiting := q.waiting ++ [r] })

def advance (q : Queue) : Queue :=
  match q.waiting with
  | [] => q
  | r :: rest => { q with store := (q.store.perform r).2, waiting := rest }

/-- Takes no more requests and carries out those that wait. -/
def stop (q : Queue) : Queue where
  store := q.waiting.foldl (fun s r => (s.perform r).2) q.store
  stopped := true

/-- Submits requests in their order, and tells which were taken. -/
def submitAll (q : Queue) : List Request → List Bool × Queue
  | [] => ([], q)
  | r :: rs =>
    let (taken, q) := q.submit r
    let (others, q) := q.submitAll rs
    (taken :: others, q)

end Queue

end DropLedger
