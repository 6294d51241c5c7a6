import StagedLoad.Problem
import StagedLoad.Query.Expr
import StagedLoad.Staging.Table
import StagedLoad.Step.Basic

/-!
# Query plans

A plan reads the rows of one staging table, joined with others by left outer joins.  `Plan.base`
is the plan that reads the columns of a step which need no conversion.  `undefinedNames` lists
the names that a plan uses for tables without, or before, introducing them.
-/

namespace StagedLoad

/-- a table, and the name that a query calls it by -/
structure TableRef where
  table : String
  name : String
  deriving DecidableEq, Repr

structure Join where
  table : TableRef
  condition : Expr
  deriving DecidableEq, Repr

structure Plan where
  source : TableRef
  columns : List Expr := []
  joins : List Join := []
  filters : List Expr := []
  orderBy : List Expr := []
  deriving DecidableEq, Repr

namespace TableRef

def plain (table : String) : TableRef := { table := table, name := table }

def toSql (r : TableRef) (d : Dialect) : String :=
  if r.name = r.table then d.quoteName r.table
  else d.quoteName r.table ++ " AS " ++ d.quoteName r.name

end TableRef

def Join.toSql (j : Join) (d : Dialect) : String :=
  "\nLEFT OUTER JOIN " ++ j.table.toSql d ++ " ON " ++ j.condition.toSql d

namespace Plan

/-! ## building -/

/-- the fields that are never read from a staging row as they are -/
def unreadFields : List String := ["Id", recordTypeField, "RecordType"]

/-- the staging columns of the fields that need no conversion, in the order of the fields -/
def directColumns (s : Step) : List String :=
  (s.fields.toList.filter fun (name, _) =>
    !unreadFields.contains name && !s.lookups.hasKey name).map Prod.snd

/-- the plan that reads the id and the unconverted columns of a step from the staging table
`model`, in the order of the ids -/
def base (s : Step) (model : Table) : Except Problem Plan :=
  let id := Expr.column model.name model.rowId
  match (directColumns s).find? fun column => !model.hasColumn column with
  | some column => .error (.unknownColumn model.name column)
  | none => .ok {
      source := .plain model.name
      columns := id :: (directColumns s).map (Expr.column model.name)
      orderBy := [id] }

def addJoins (p : Plan) (joins : List Join) : Plan := { p with joins := p.joins ++ joins }

def addColumns (p : Plan) (columns : List Expr) : Plan := { p with columns := p.columns ++ columns }

def addFilters (p : Plan) (filters : List Expr) : Plan := { p with filters := p.filters ++ filters }

/-! ## names -/

def unknownIn (known : List String) (es : List Expr) : List String :=
  es.flatMap fun e => e.qualifiers.filter fun q => !known.contains q

/-- the names used by the conditions of joins before they are known; a join makes its own name
known to its condition and to the joins behind it -/
def unknownInJoins (known : List String) : List Join → List String
  | [] => []
  | j :: js =>
    let known := j.table.name :: known
    unknownIn known [j.condition] ++ unknownInJoins known js

def names (p : Plan) : List String := p.source.name :: p.joins.map (·.table.name)

/-- the names that a plan uses without having introduced them -/
def undefinedNames (p : Plan) : List String :=
  unknownInJoins [p.source.name] p.joins ++
    unknownIn p.names (p.columns ++ p.filters ++ p.orderBy)

/-! ## SQL -/

def clause (word separator : String) (d : Dialect) (es : List Expr) : String :=
  if es.isEmpty then ""
  else "\n" ++ word ++ " " ++ String.intercalate separator (es.map (·.toSql d))

def toSql (p : Plan) (d : Dialect) : String :=
  "SELECT " ++ String.intercalate ", " (p.columns.map (·.toSql d)) ++ "\nFROM " ++
    p.source.toSql d ++ String.join (p.joins.map fun j => j.toSql d) ++
    clause "WHERE" " AND " d p.filters ++ clause "ORDER BY" ", " d p.orderBy

/-! ## small facts -/

theorem addJoins_nil (p : Plan) : p.addJoins [] = p := by simp [addJoins]

theorem addJoins_append (p : Plan) (as bs : List Join) :
    p.addJoins (as ++ bs) = (p.addJoins as).addJoins bs := by simp [addJoins]

theorem addColumns_nil (p : Plan) : p.addColumns [] = p := by simp [addColumns]

theorem addColumns_append (p : Plan) (as bs : List Expr) :
    p.addColumns (as ++ bs) = (p.addColumns as).addColumns bs := by simp [addColumns]

theorem addFilters_nil (p : Plan) : p.addFilters [] = p := by simp [addFilters]

theorem addFilters_append (p : Plan) (as bs : List Expr) :
    p.addFilters (as ++ bs) = (p.addFilters as).addFilters bs := by simp [addFilters]

theorem unknownIn_append (known : List String) (as bs : List Expr) :
    unknownIn known (as ++ bs) = unknownIn known as ++ unknownIn known bs := by
  simp [unknownIn]

end Plan

end StagedLoad
