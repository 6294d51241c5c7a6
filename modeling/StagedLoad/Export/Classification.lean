import StagedLoad.Export.Declaration
import StagedLoad.Journal
import StagedLoad.Org.Schema

/-!
# Which fields are lookups

A declared field is plain when it refers to no object, and so is the record type.  A field that
refers to objects is a lookup into those of them that are exported too; if none is, the field is
left out.  Every declared object and field has to be known to the org.
-/

namespace StagedLoad

/-- what becomes of a declared field -/
inductive FieldUse where
  | plain
  | lookup (targets : List String)
  /-- left out: none of the objects it refers to is exported -/
  | dropped (references : List String)
  deriving DecidableEq, Repr

def Field.use (exported : List String) (f : Field) : FieldUse :=
  if f.isRelationship then
    let targets := f.references.filter exported.contains
    if targets.isEmpty then .dropped f.references else .lookup targets
  else .plain

namespace Declaration

def fieldUse (d : Declaration) (org : OrgView) (exported : List String) (field : String) :
    Except Problem FieldUse :=
  if field = recordTypeField then .ok .plain
  else match org.field? d.object field with
    | none => .error (.unknownField d.object field)
    | some f => .ok (f.use exported)

/-- what becomes of a declared field, with a notice when it is left out -/
def sortField (d : Declaration) (org : OrgView) (exported : List String) (field : String) :
    Journal (String × FieldUse) := do
  let use ← Journal.ofExcept (d.fieldUse org exported field)
  match use with
  | .dropped references => Journal.note (.lookupDropped d.object field references)
  | _ => pure ()
  return (field, use)

def plainFields (uses : List (String × FieldUse)) : List String :=
  uses.filterMap fun (field, use) => if use = .plain then some field else none

def lookupFields (uses : List (String × FieldUse)) : List (String × List String) :=
  uses.filterMap fun (field, use) =>
    match use with
    | .lookup targets => some (field, targets)
    | _ => none

def sorted (d : Declaration) (uses : List (String × FieldUse)) : Classified where
  object := d.object
  fields := plainFields uses
  lookups := Roster.ofList (lookupFields uses)
  recordType := d.recordType
  filters := d.filters

/-- sort the fields of a declaration, given the names of the exported objects -/
def classify (d : Declaration) (org : OrgView) (exported : List String) : Journal Classified :=
  if org.hasObject d.object then do
    let uses ← d.fields.mapM (d.sortField org exported)
    return d.sorted uses
  else Journal.fail (.unknownObject d.object)

def exported (ds : List Declaration) : List String :=
  (ds.map Declaration.object).filter fun name => !name.isEmpty

def classifyAll (ds : List Declaration) (org : OrgView) : Journal (List Classified) :=
  ds.mapM fun d => d.classify org (exported ds)

/-! ## small facts -/

theorem outcome_sortField (d : Declaration) (org : OrgView) (exported : List String)
    (field : String) :
    (d.sortField org exported field).outcome =
      (d.fieldUse org exported field).map (field, ·) := by
  unfold sortField
  rw [Journal.outcome_bind]
  show (d.fieldUse org exported field) >>= _ = _
  cases d.fieldUse org exported field with
  | error p => rfl
  | ok use => cases use <;> rfl

end Declaration

end StagedLoad
