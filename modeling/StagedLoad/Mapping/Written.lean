import StagedLoad.Data.Yaml.Printer
import StagedLoad.Mapping.Basic
import StagedLoad.Mapping.Order

/-!
# Mappings in written form

A mapping is kept as a YAML file: a table of steps by name.  What a step does not have is left
out of the file, and filled in when the file is read.
-/

namespace StagedLoad

open Data

variable {ν : Type}

namespace Lookup

def tree (l : Lookup) : Tree :=
  .table ([("table", .text l.table)] ++ Tree.textIfAny "key_field" l.keyField ++
    [("after", .flag l.after)])

def read (F : Form ν) (v : ν) : Except Fault Lookup := do
  let given ← F.record ["table", "key_field", "after"] v
  return {
    table := ← required given "table" F.text
    keyField := ← defaulting given "key_field" none F.textIfAny
    after := ← defaulting given "after" false F.flag }

end Lookup

namespace Step

def lookupsIfAny (lookups : Keyed Lookup) : List (String × Tree) :=
  if lookups.isEmpty then []
  else [("lookups", .table (lookups.toList.map fun (name, l) => (name, l.tree)))]

def tree (s : Step) : Tree :=
  .table ([("sf_object", .text s.object)] ++ Tree.textIfAny "table" s.table ++
    [("fields", .table (s.fields.toList.map fun (name, column) => (name, .text column)))] ++
    lookupsIfAny s.lookups ++ Tree.textsIfAny "filters" s.filters ++
    Tree.textIfAny "record_type" s.recordType)

def read (F : Form ν) (v : ν) : Except Fault Step := do
  let given ← F.record ["sf_object", "table", "fields", "lookups", "filters", "record_type"] v
  return {
    object := ← required given "sf_object" F.text
    table := ← defaulting given "table" none F.textIfAny
    fields := ← defaulting given "fields" ∅ (F.keyed F.text)
    lookups := ← defaulting given "lookups" ∅ (F.keyed (Lookup.read F))
    filters := ← defaulting given "filters" [] F.texts
    recordType := ← defaulting given "record_type" none F.textIfAny }

end Step

namespace Rule

def tree (r : Rule) : Tree :=
  .table [("sf_object", .text r.object), ("load_after", .texts r.loadAfter)]

def read (F : Form ν) (v : ν) : Except Fault Rule := do
  let given ← F.record ["sf_object", "load_after"] v
  return {
    object := ← required given "sf_object" F.text
    loadAfter := ← defaulting given "load_after" [] F.texts }

end Rule

namespace Mapping

def tree (m : Mapping) : Tree := .table (m.steps.toList.map fun (name, s) => (name, s.tree))

def read (F : Form ν) (v : ν) : Except Fault Mapping :=
  (F.keyed (Step.read F) v).map fun steps => { steps := steps }

def toYaml (m : Mapping) : String := Yaml.print m.tree

def ofYaml (text : String) : Except Problem Mapping :=
  match Yaml.readAs read text with
  | .ok m => .ok m
  | .error detail => .error (.badMapping detail)

end Mapping

end StagedLoad
