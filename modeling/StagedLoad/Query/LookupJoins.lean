import StagedLoad.Query.Alias
import StagedLoad.Query.Extension
import StagedLoad.Staging.Catalog
import StagedLoad.Step.KeyField

/-!
# Converting lookups

The value of a lookup is the id of a staging row of another object.  Every lookup that is
converted while records are inserted adds a join with the table of ids of that object, under a
name of its own, and a column with the id that the org gave to the row.  The joins are outer
ones, so that a row without a value is kept.
-/

namespace StagedLoad

namespace Lookup

/-- the column and the join that convert a lookup: `idTable` holds the ids, called `name` in the
query, and `keyField` is the column of `model` with the value -/
def conversion (idTable name model keyField : String) : Expr × Join :=
  (.column name orgIdColumn,
    { table := { table := idTable, name := name }
      condition := .eq (.column name idColumn) (.castText (.column model keyField)) })

/-- the table of ids of the object that a lookup refers to, and the column with its value -/
def resolve (l : Lookup) (name : String) (catalog : Catalog) (model : Table) :
    Except Problem (Table × String) :=
  match catalog.table (idTableName l.table) with
  | .error miss => .error (.notInCatalog miss)
  | .ok idTable => (l.keyFieldIn name model).map (idTable, ·)

end Lookup

namespace Extender

def conversions (object : String) (catalog : Catalog) (model : Table) :
    Aliases → List (String × Lookup) → Journal (List (Expr × Join) × Aliases)
  | names, [] => pure ([], names)
  | names, (lookup, l) :: ls => do
    let (idTable, keyField) ← Journal.ofExcept (l.resolve lookup catalog model)
    let (name, names) := names.next
    Journal.note (.lookupJoined object lookup idTable.name name)
    let (rest, names) ← conversions object catalog model names ls
    return (Lookup.conversion idTable.name name model.name keyField :: rest, names)

def ofConversions (ts : List (Expr × Join)) : Extender where
  name := "lookups"
  columns := part (ts.map Prod.fst)
  joins := part (ts.map Prod.snd)

/-- the extender that converts the lookups of a step, with the names still free behind it -/
def lookupJoins (s : Step) (catalog : Catalog) (model : Table) (names : Aliases) :
    Journal (Extender × Aliases) := do
  let (ts, names) ← conversions s.object catalog model names s.insertLookups
  return (ofConversions ts, names)

end Extender

end StagedLoad
