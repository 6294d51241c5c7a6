import StagedLoad.Query.LookupJoins
import StagedLoad.Query.RecordTypes
import StagedLoad.Query.RowFilters

/-!
# Load queries

The query that reads the rows of a staging table for a step: the base plan extended by the
conversion of lookups, the conversion of record types, the conditions of the step and, where
they are in use, the one that keeps person accounts out of contacts.
-/

namespace StagedLoad

structure QuerySettings where
  dialect : Dialect := .postgres
  /-- the destination org has person accounts -/
  personAccounts : Bool := false
  deriving DecidableEq, Repr

namespace Step

def excludesPersonAccounts (s : Step) (model : Table) (settings : QuerySettings) : Bool :=
  s.object == Extender.contactObject && settings.personAccounts &&
    model.hasColumn Extender.personAccountColumn

def personAccountExtenders (s : Step) (model : Table) (settings : QuerySettings) :
    Except Problem (List Extender) :=
  if s.excludesPersonAccounts model settings then
    (Extender.businessContacts s.object model).map fun e => [e]
  else .ok []

/-- the plan that reads the rows of the staging table `model` for a step -/
def loadPlan (s : Step) (catalog : Catalog) (model : Table) (settings : QuerySettings) :
    Journal Plan := do
  let base ← Journal.ofExcept (Plan.base s model)
  let (lookups, _) ← Extender.lookupJoins s catalog model (({} : Aliases).reserve model.name)
  let recordTypes ← Journal.ofExcept (Extender.recordTypes s catalog model)
  let people ← Journal.ofExcept (s.personAccountExtenders model settings)
  let plan ← base.extend ([lookups, recordTypes, Extender.rowFilters s] ++ people)
  Journal.note (.queryComposed s.object plan.columns.length plan.joins.length plan.filters.length)
  return plan

def loadQuery (s : Step) (catalog : Catalog) (model : Table) (settings : QuerySettings) :
    Journal String := do
  let plan ← s.loadPlan catalog model settings
  let sql := plan.toSql settings.dialect
  Journal.note (.queryWritten sql)
  return sql

def loadQueryIn (s : Step) (catalog : Catalog) (settings : QuerySettings) : Journal String :=
  match catalog.table s.tableName with
  | .ok model => s.loadQuery catalog model settings
  | .error miss => Journal.fail (.notInCatalog miss)

end Step

end StagedLoad
