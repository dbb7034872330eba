import DropLedger.Store.Reading

/-! Changes to the logs of a store. Each has two forms: one hands a failure on, the other reports it
and comes to `false`. -/
namespace DropLedger

namespace Log

/-- Adds drops to the last kill. -/
def amended (ks : List Kill) (ds : List Drop) : Option (List Kill) :=
  ks.getLast?.map fun k => ks.dropLast ++ [k.addDrops ds]

end Log

namespace Store

/-- Replaces the log of a key as a whole. -/
def replaceLog (s : Store) (key : String) (ks : List Kill) : Except Cause Unit × Disk :=
  s.disk.replace (s.selection.logPath key) (s.selection.sparePath key) (Log.write ks)

/-- Adds a kill to the log of a key. -/
def extendLog (s : Store) (key : String) (k : Kill) : Except Cause Unit × Disk :=
  s.disk.appendLine (s.selection.logPath key) (Log.write [k])

def tryAppend (s : Store) (k : Kill) : Attempt Unit :=
  match keyOf k.name with
  | .error e => (.error e, s)
  | .ok key => s.concluded (s.extendLog key k) (.appended k.name (s.selection.logPath key))

def append (s : Store) (k : Kill) : Bool × Store :=
  (s.tryAppend k).reported (.appendFailed k.name)

def tryReplace (s : Store) (entity : String) (ks : List Kill) : Attempt Unit :=
  match keyOf entity with
  | .error e => (.error e, s)
  | .ok key => s.concluded (s.replaceLog key ks) (.replaced entity ks.length)

def replace (s : Store) (entity : String) (ks : List Kill) : Bool × Store :=
  (s.tryReplace entity ks).reported (.replaceFailed entity)

/-- Takes the log of an entity away. A log that is not there is as good as taken away. -/
def tryDelete (s : Store) (entity : String) : Attempt Unit :=
  match keyOf entity with
  | .error e => (.error e, s)
  | .ok key =>
    let path := s.selection.logPath key
    match s.disk.remove path with
    | .ok d => (.ok (), { s with disk := d }.note (.deleted entity path))
    | .error .noEntry => (.ok (), s.note (.nothingToDelete entity))
    | .error e => (.error (.disk e), s)

def delete (s : Store) (entity : String) : Bool × Store :=
  (s.tryDelete entity).reported (.deleteFailed entity)

/-- Adds drops that were seen late to the last kill of an entity. Where there is none, they become
a reward of their own. Lines that cannot be read are lost when the log is replaced. -/
def tryAmendLast (s : Store) (entity : String) (ds : List Drop) : Attempt Unit :=
  if ds.isEmpty then (.ok (), s)
  else match keyOf entity with
    | .error e => (.error e, s)
    | .ok key =>
      match s.readLog entity with
      | (.error e, s) => (.error e, s)
      | (.ok log, s) =>
        match Log.amended log.kills ds with
        | none =>
          s.concluded (s.extendLog key (Kill.ofEvent (Text.trim entity) unknown ds))
            (.nothingToAmend entity)
        | some ks =>
          let s := if log.skipped = 0 then s else s.note (.amendSkips entity log.skipped)
          s.concluded (s.replaceLog key ks) (.amended entity)

def amendLast (s : Store) (entity : String) (ds : List Drop) : Bool × Store :=
  (s.tryAmendLast entity ds).reported (.amendFailed entity)

/-- Writes a log that has kills in the older layout anew, and tells whether there were any. Lines
that cannot be read are lost then. -/
def tryMigrate (s : Store) (entity : String) : Attempt Bool :=
  match keyOf entity with
  | .error e => (.error e, s)
  | .ok key =>
    match s.readLog entity with
    | (.error e, s) => (.error e, s)
    | (.ok log, s) =>
      if log.older = 0 then (.ok false, s)
      else
        let s := if log.skipped = 0 then s else s.note (.migrationSkips entity log.skipped)
        let (result, s) := s.concluded (s.replaceLog key log.kills)
          (.migrated entity log.older log.kills.length)
        (result.map fun _ => true, s)

def migrate (s : Store) (entity : String) : Bool × Store :=
  (s.tryMigrate entity).reported (.migrateFailed entity)

end Store

end DropLedger
