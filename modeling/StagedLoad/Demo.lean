import StagedLoad.Mapping.Generation
import StagedLoad.Mapping.Written
import StagedLoad.Org.SalesCloud
import StagedLoad.Query.Composition
import StagedLoad.Staging.Definition

/-!
# A demonstration

Three standard objects are exported: the edges between them, their mapping, their staging tables
and their load queries make up one text.
-/

namespace StagedLoad.Demo

def declarations : List Declaration :=
  [{ object := "Account", fields := ["Name", "Industry", "ParentId", "OwnerId", "RecordTypeId"] },
   { object := "Contact",
     fields :=
       ["FirstName", "LastName", "Email", "AccountId", "ReportsToId", "IsPersonAccount"] },
   { object := "Opportunity", fields := ["Name", "StageName", "CloseDate", "AccountId"],
     filters := ["StageName != 'Closed Lost'"] }]

def settings : QuerySettings := { dialect := .sqlite, personAccounts := true }

def line (s : String) : String := s ++ "\n"

def querySection (catalog : Catalog) (s : Step) : Journal String := do
  let sql ← s.loadQueryIn catalog settings
  return line ("-- " ++ s.object) ++ line (sql ++ ";\n")

def text : Journal String := do
  let classified ← Declaration.classifyAll declarations SalesCloud.schema
  let edges := (Edge.discover classified).toList.map fun e => line ("  " ++ e.text)
  let mapping ← Mapping.generate declarations SalesCloud.schema declarationOrder []
  let catalog := Catalog.forLoad mapping.toList
  let queries ← mapping.toList.mapM (querySection catalog)
  return line "=== Load Mapping Demo ===\n" ++
    line "--- Dependencies ---" ++ String.join edges ++
    line "\n--- Mapping file ---" ++ line mapping.toYaml ++
    line "--- Staging DDL ---" ++ line (catalog.createScript settings.dialect) ++
    line "--- Load queries ---" ++ String.join queries

end StagedLoad.Demo
