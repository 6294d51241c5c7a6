import StagedLoad.Data.Json.Reader
import StagedLoad.Text.Lowercase

/-!
# The schema of an org

What an org says about its objects: their fields, and the objects each field refers to.  Names
are compared in lower case.  Of two descriptions of one name the later counts, and it replaces
the earlier one as a whole.  An export needs no more of an org than an `OrgView`.

A schema can be read from a JSON array of objects, each with a name and fields, each field with a
name and the objects it refers to.
-/

namespace StagedLoad

open Data

/-! ## fields -/

structure Field where
  name : String
  /-- the objects that the field refers to; none for a field that is no lookup -/
  references : List String := []
  deriving DecidableEq, Repr

namespace Field

/-- what the name of a field is compared by -/
def key (f : Field) : String := Text.lowercase f.name

def isRelationship (f : Field) : Bool := !f.references.isEmpty

def isPolymorphic (f : Field) : Bool := f.references.length > 1

theorem isRelationship_iff (f : Field) : f.isRelationship = true ↔ f.references ≠ [] := by
  simp [isRelationship]

end Field

/-! ## objects -/

structure OrgObject where
  name : String
  fields : Roster Field.key := ∅
  deriving DecidableEq

namespace OrgObject

def key (o : OrgObject) : String := Text.lowercase o.name

def addField (o : OrgObject) (f : Field) : OrgObject := { o with fields := o.fields.put f }

def ofFields (name : String) (fields : List Field) : OrgObject :=
  { name := name, fields := Roster.ofList fields }

def field? (o : OrgObject) (name : String) : Option Field := o.fields.find? (Text.lowercase name)

end OrgObject

/-! ## schemas -/

structure Schema where
  objects : Roster OrgObject.key := ∅

namespace Schema

def addObject (s : Schema) (o : OrgObject) : Schema := { objects := s.objects.put o }

def ofObjects (os : List OrgObject) : Schema := { objects := Roster.ofList os }

def object? (s : Schema) (name : String) : Option OrgObject :=
  s.objects.find? (Text.lowercase name)

def hasObject (s : Schema) (name : String) : Bool := (s.object? name).isSome

def field? (s : Schema) (object field : String) : Option Field :=
  (s.object? object).bind (·.field? field)

theorem object?_addObject (s : Schema) (o : OrgObject) (name : String) :
    (s.addObject o).object? name = if o.key = Text.lowercase name then some o else s.object? name :=
  Roster.find?_put s.objects o (Text.lowercase name)

end Schema

/-! ## views -/

/-- what the fields of an export are sorted by: which objects an org has, and what it says about
their fields -/
structure OrgView where
  hasObject : String → Bool
  field? : String → String → Option Field

def Schema.view (s : Schema) : OrgView := { hasObject := s.hasObject, field? := s.field? }

instance : Coe Schema OrgView := ⟨Schema.view⟩

/-! ## reading -/

variable {ν : Type}

def Field.read (F : Form ν) (v : ν) : Except Fault Field := do
  let given ← F.record ["name", "referenceTo"] v
  return {
    name := ← required given "name" F.text
    references := ← defaulting given "referenceTo" [] F.texts }

def OrgObject.read (F : Form ν) (v : ν) : Except Fault OrgObject := do
  let given ← F.record ["name", "fields"] v
  let name ← required given "name" F.text
  let fields ← defaulting given "fields" [] (F.list (Field.read F))
  return .ofFields name fields

def Schema.ofJson (text : String) : Except Fault Schema :=
  (Json.readAs (Json.form.list (OrgObject.read Json.form)) text).map Schema.ofObjects

end StagedLoad
