import StagedLoad.Query.Extension
import StagedLoad.Staging.Catalog

/-!
# Converting record types

A record type of the source org is converted to the one of the same developer name in the
destination org: the table of source record types is joined by id, the table of destination
record types by developer name.  A step for records of one type also keeps out all other rows,
if the staging table knows the types of its rows.
-/

namespace StagedLoad.Extender

def recordTypeTable (catalog : Catalog) (name : String) : Except Problem Table :=
  match catalog.table name with
  | .ok t => .ok t
  | .error miss => .error (.noRecordTypes name miss)

/-- the joins that convert the record type in a column of `model` -/
def recordTypeJoins (source destination model column : String) : List Join :=
  [{ table := .plain source
     condition := .eq (.column source recordTypeIdColumn) (.column model column) },
   { table := .plain destination
     condition :=
       .eq (.column destination developerNameColumn) (.column source developerNameColumn) }]

def recordTypeConversion (s : Step) (catalog : Catalog) (model : Table) :
    Except Problem (List Expr × List Join) :=
  match s.fields.get? recordTypeField with
  | none => .ok ([], [])
  | some column => do
    let source ← recordTypeTable catalog s.sourceRecordTypes
    let destination ← recordTypeTable catalog s.destinationRecordTypes
    if model.hasColumn column then
      return ([.column destination.name recordTypeIdColumn],
        recordTypeJoins source.name destination.name model.name column)
    else .error (.unknownColumn model.name column)

def recordTypeFilters (s : Step) (model : Table) : List Expr :=
  match s.recordType with
  | none => []
  | some recordType =>
    if model.hasColumn recordTypeColumn then
      [.eq (.column model.name recordTypeColumn) (.text recordType)]
    else []

def recordTypes (s : Step) (catalog : Catalog) (model : Table) : Except Problem Extender := do
  let (columns, joins) ← recordTypeConversion s catalog model
  return {
    name := "record_types"
    columns := part columns
    joins := part joins
    filters := part (recordTypeFilters s model) }

end StagedLoad.Extender
