import StagedLoad.Data.Form
import StagedLoad.Export.Edge

/-!
# Declarations and edges in written form

Every type has its tree, in which parts that are absent or empty may be left out, and its reader,
which fills in what was left out.
-/

namespace StagedLoad

open Data

variable {ν : Type}

namespace Declaration

def tree (d : Declaration) : Tree :=
  .table ([("sf_object", .text d.object), ("fields", .texts d.fields)] ++
    Tree.textIfAny "record_type" d.recordType ++ Tree.textsIfAny "filters" d.filters)

def read (F : Form ν) (v : ν) : Except Fault Declaration := do
  let given ← F.record ["sf_object", "fields", "record_type", "filters"] v
  return {
    object := ← required given "sf_object" F.text
    fields := ← defaulting given "fields" [] F.texts
    recordType := ← defaulting given "record_type" none F.textIfAny
    filters := ← defaulting given "filters" [] F.texts }

end Declaration

namespace Classified

def tree (c : Classified) : Tree :=
  .table ([("sf_object", .text c.object), ("fields", .texts c.fields),
      ("lookups", .table (c.lookups.toList.map fun (name, ts) => (name, .texts ts)))] ++
    Tree.textIfAny "record_type" c.recordType ++ Tree.textsIfAny "filters" c.filters)

def read (F : Form ν) (v : ν) : Except Fault Classified := do
  let given ← F.record ["sf_object", "fields", "lookups", "record_type", "filters"] v
  return {
    object := ← required given "sf_object" F.text
    fields := ← required given "fields" F.texts
    lookups := ← required given "lookups" (F.keyed F.texts)
    recordType := ← defaulting given "record_type" none F.textIfAny
    filters := ← defaulting given "filters" [] F.texts }

end Classified

namespace Edge

def tree (e : Edge) : Tree :=
  .table [("source_table", .text e.source), ("target_tables", .texts e.targets),
    ("field_name", .text e.field)]

def read (F : Form ν) (v : ν) : Except Fault Edge := do
  let given ← F.record ["source_table", "target_tables", "field_name"] v
  return {
    source := ← required given "source_table" F.text
    targets := ← required given "target_tables" F.texts
    field := ← required given "field_name" F.text }

def treeOfSet (edges : OrderedSet Edge) : Tree := .list (edges.toList.map tree)

def readSet (F : Form ν) (v : ν) : Except Fault (OrderedSet Edge) :=
  (F.list (read F) v).map Roster.ofList

end Edge

end StagedLoad
