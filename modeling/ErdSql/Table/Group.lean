import ErdSql.Event
import ErdSql.Sql.Script

/-!
# Groups of tables

The tables that share one pair of scripts.  The script that creates them and the one that drops
them grow side by side.  Foreign keys are put off until all tables of the group are there; they
are written once, by `Group.flush`, and none can be put off after that.
-/

namespace ErdSql
namespace Table

/-- The scripts of a group of tables under construction. -/
structure Group where
  create : Sql.Script
  drop : Sql.Script
  /-- The foreign keys put off so far. -/
  deferred : List Sql.Constraint := []
  /-- The tables created so far. -/
  tables : List String := []
  flushed : Bool := false
deriving Repr

/-- A change to a group, or something else that happens meanwhile. -/
inductive Edit where
  | event (event : Event)
  /-- Adds a line to the creating script, some levels deeper. -/
  | create (depth : Nat) (line : Sql.Line)
  /-- Adds a line to the dropping script. -/
  | drop (line : Sql.Line)
  /-- Puts off a foreign key. -/
  | defer (key : Sql.Constraint)
  /-- Counts a table as created. -/
  | complete (table : String)
deriving Repr

namespace Group

def empty (indentUnit : String) : Group :=
  { create := .empty indentUnit, drop := .empty indentUnit }

/-- Puts off a foreign key. -/
def defer (group : Group) (key : Sql.Constraint) : Except Sql.BuildFault Group :=
  if group.flushed then .error .alreadyFlushed
  else .ok { group with deferred := group.deferred ++ [key] }

/-- Makes a change. -/
def apply (group : Group) : Edit → Except Sql.BuildFault Group
  | .event _ => .ok group
  | .create depth line => (group.create.write depth line).map fun s => { group with create := s }
  | .drop line => (group.drop.write 0 line).map fun s => { group with drop := s }
  | .defer key => group.defer key
  | .complete table => .ok { group with tables := group.tables ++ [table] }

/-- Writes the foreign keys that were put off, once; gives the number written. -/
def flush (group : Group) : Group × Nat :=
  if group.flushed then
    (group, 0)
  else
    ({ group with
        create := group.deferred.foldl (fun s key => s.add (.statement key.statement)) group.create
        flushed := true },
      group.deferred.length)

end Group

/-- The outcome of a list of changes: the group, what happened meanwhile, and the fault that
ended the list before its end. -/
structure GroupRun where
  group : Group
  events : List Event
  fault : Option Sql.BuildFault

def Edit.event? : Edit → Option Event
  | .event e => some e
  | _ => none

/-- Makes changes one after the other up to the first that cannot be made. -/
def Group.run (group : Group) : List Edit → GroupRun
  | [] => ⟨group, [], none⟩
  | edit :: edits =>
      match group.apply edit with
      | .error fault => ⟨group, [], some fault⟩
      | .ok next =>
          let rest := next.run edits
          { rest with events := edit.event?.toList ++ rest.events }

end Table
end ErdSql
