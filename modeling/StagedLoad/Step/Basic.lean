import StagedLoad.Export.Declaration

/-!
# Load steps

A step says how the records of one object are loaded: from which staging table, which column
feeds which field, and which fields are lookups whose values have to be converted, either while
the records are inserted or in an update behind all inserts.
-/

namespace StagedLoad

/-- a field whose value names a record of another object -/
structure Lookup where
  /-- the object that is referred to -/
  table : String
  /-- the staging column with the value, if it is not named after the field -/
  keyField : Option String := none
  /-- converted in an update behind all inserts -/
  after : Bool := false
  deriving DecidableEq, Repr

structure Step where
  object : String
  table : Option String := none
  /-- each field with the staging column that feeds it -/
  fields : Keyed String := ∅
  lookups : Keyed Lookup := ∅
  filters : List String := []
  recordType : Option String := none
  deriving DecidableEq

namespace Step

def tableName (s : Step) : String := s.table.getD s.object

def hasField (s : Step) (name : String) : Bool := s.fields.hasKey name

def insertLookups (s : Step) : List (String × Lookup) :=
  s.lookups.toList.filter fun (_, l) => !l.after

def deferredLookups (s : Step) : List (String × Lookup) :=
  s.lookups.toList.filter fun (_, l) => l.after

/-- the table that names the record types of the source org -/
def sourceRecordTypes (s : Step) : String := s.object ++ "_rt_mapping"

/-- the table that names the record types of the destination org -/
def destinationRecordTypes (s : Step) : String := s.object ++ "_rt_target_mapping"

/-- a step that feeds every field from the column of its own name, with no lookup resolved yet -/
def ofClassified (c : Classified) : Step where
  object := c.object
  fields := Roster.ofList ((c.fields ++ c.lookups.keys).map fun name => (name, name))
  filters := c.filters
  recordType := c.recordType

/-- the two steps are the same up to the order of fields and lookups -/
def agrees (s t : Step) : Bool :=
  s.object == t.object && s.table == t.table && s.fields.agrees (· == ·) t.fields &&
    s.lookups.agrees (· == ·) t.lookups && s.filters == t.filters && s.recordType == t.recordType

theorem mem_insertLookups {s : Step} {name : String} {l : Lookup} :
    (name, l) ∈ s.insertLookups ↔ (name, l) ∈ s.lookups.toList ∧ l.after = false := by
  simp [insertLookups]

end Step

end StagedLoad
