import StagedLoad.Problem
import StagedLoad.Staging.Table
import StagedLoad.Step.Basic

/-!
# The catalog of the staging database

The catalog holds the tables of the staging database by name, in order of first registration; a
table that is registered again replaces its former definition.  `Catalog.forLoad` derives the
catalog that a list of steps works against.
-/

namespace StagedLoad

structure Catalog where
  tables : Roster Table.name := ∅

namespace Catalog

def add (c : Catalog) (t : Table) : Catalog := { tables := c.tables.put t }

def addAll (c : Catalog) (ts : List Table) : Catalog := ts.foldl add c

def has (c : Catalog) (name : String) : Bool := c.tables.hasKey name

def table (c : Catalog) (name : String) : Except CatalogMiss Table :=
  match c.tables.find? name with
  | some t => .ok t
  | none => .error { table := name }

/-- the staging table of a step: an id, every column that feeds a field or a lookup, and the
record type where the step asks for one -/
def stagingTable (s : Step) : Table :=
  let keys := s.lookups.toList.map fun (name, l) => l.keyField.getD name
  let t := (((Table.named s.tableName).markKey idColumn).addColumns s.fields.values).addColumns keys
  if s.recordType.isSome then t.addColumn recordTypeColumn else t

def tablesOf (s : Step) : List Table :=
  [stagingTable s, .idMapping s.tableName] ++
    if s.hasField recordTypeField then
      [.recordTypeMapping s.sourceRecordTypes, .recordTypeMapping s.destinationRecordTypes]
    else []

def forLoad (steps : List Step) : Catalog := ({} : Catalog).addAll (steps.flatMap tablesOf)

/-! ## small facts -/

theorem addAll_cons (c : Catalog) (t : Table) (ts : List Table) :
    c.addAll (t :: ts) = (c.add t).addAll ts := rfl

theorem name_of_table {c : Catalog} {name : String} {t : Table} (h : c.table name = .ok t) :
    t.name = name := by
  unfold table at h
  split at h
  · next u hu =>
    cases h
    exact Roster.key_of_find? hu
  · cases h

@[simp] theorem name_stagingTable (s : Step) : (stagingTable s).name = s.tableName := by
  unfold stagingTable
  split <;> simp

end Catalog

end StagedLoad
