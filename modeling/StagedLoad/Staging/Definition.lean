import StagedLoad.Staging.Catalog
import StagedLoad.Staging.Dialect

/-!
# Creating and dropping the staging tables

The statements that create the tables of a catalog in order of registration, and those that drop
them in the reverse order.  All columns hold text.
-/

namespace StagedLoad

namespace Table

def columnDefinition (t : Table) (d : Dialect) (column : String) : String :=
  "    " ++ d.quoteName column ++ " " ++ d.textType ++
    if t.primaryKey = some column then " PRIMARY KEY" else ""

def createStatement (t : Table) (d : Dialect) : String :=
  "CREATE TABLE " ++ d.quoteName t.name ++ " (\n" ++
    String.intercalate ",\n" (t.columns.toList.map (t.columnDefinition d)) ++ "\n)"

def dropStatement (t : Table) (d : Dialect) : String :=
  "DROP TABLE IF EXISTS " ++ d.quoteName t.name ++
    match d.dropSuffix? with
    | some suffix => " " ++ suffix
    | none => ""

end Table

namespace Catalog

def createScript (c : Catalog) (d : Dialect) : String :=
  String.join (c.tables.toList.map fun t => t.createStatement d ++ ";\n\n")

/-- the statements that drop all tables, last registered first -/
def dropScript (c : Catalog) (d : Dialect) : String :=
  String.join (c.tables.toList.reverse.map fun t => t.dropStatement d ++ ";\n")

end Catalog

end StagedLoad
