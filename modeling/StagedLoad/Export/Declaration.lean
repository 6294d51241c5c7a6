import StagedLoad.Roster

/-!
# Declarations of what to export

A declaration names an object of the org and the fields to take along.  Once it is known which of
its fields are lookups into other exported objects it is a `Classified` declaration.
-/

namespace StagedLoad

/-- the field that holds the record type of a record; it is never treated as a lookup -/
def recordTypeField : String := "RecordTypeId"

structure Declaration where
  object : String
  fields : List String := []
  recordType : Option String := none
  filters : List String := []
  deriving DecidableEq, Repr

/-- a declaration whose fields are sorted into plain ones and lookups -/
structure Classified where
  object : String
  fields : List String := []
  /-- each lookup with the exported objects it may refer to -/
  lookups : Keyed (List String) := ∅
  recordType : Option String := none
  filters : List String := []
  deriving DecidableEq

end StagedLoad
