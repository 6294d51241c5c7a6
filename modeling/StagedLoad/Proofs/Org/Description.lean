import StagedLoad.Data.Json.Printer
import StagedLoad.Org.Schema
import StagedLoad.Proofs.Data.JsonText
import StagedLoad.Proofs.LastItem

/-!
# The last description of a name

An object is described by a name and by fields, one after the other.  A schema is made of
descriptions: they are added one by one, or a text is read that holds a list of them.  The same
object may be described again, in any casing, and so may a field within a description.

Whatever was added and read, the schema answers from the last description of an object, and there
from the last field of a name (`run_tells_last`).  A description that was replaced is gone as a
whole: a field that only it had is not known any more.
-/

namespace StagedLoad

open Data
open Text (lowercase)

/-! ## descriptions -/

/-- an object as it is described, its fields in order and with repetitions -/
structure Description where
  name : String
  fields : List Field := []
  deriving DecidableEq, Repr

namespace OrgObject

theorem foldl_addField (o : OrgObject) (fs : List Field) :
    fs.foldl addField o = { o with fields := o.fields.putAll fs } := by
  induction fs generalizing o with
  | nil => rfl
  | cons f fs ih => rw [List.foldl_cons, ih, Roster.putAll_cons]; rfl

end OrgObject

namespace Description

def key (d : Description) : String := lowercase d.name

def object (d : Description) : OrgObject := d.fields.foldl OrgObject.addField { name := d.name }

theorem object_eq (d : Description) : d.object = .ofFields d.name d.fields :=
  OrgObject.foldl_addField { name := d.name } d.fields

theorem key_object (d : Description) : d.object.key = d.key := by
  rw [object_eq]
  rfl

theorem field?_object {d : Description} {name : String} {f : Field} :
    d.object.field? name = some f ↔ f.key = lowercase name ∧ LastOf Field.key d.fields f := by
  rw [object_eq]
  show (Roster.ofList d.fields : Roster Field.key).find? (lowercase name) = some f ↔ _
  rw [Roster.find?_ofList]
  exact find?_reverse_eq_some_iff

/-! ## descriptions in texts -/

variable {ν : Type} {F : Form ν}

def read (F : Form ν) (v : ν) : Except Fault Description := do
  let given ← F.record ["name", "fields"] v
  return {
    name := ← required given "name" F.text
    fields := ← defaulting given "fields" [] (F.list (Field.read F)) }

theorem read_object (F : Form ν) (v : ν) :
    OrgObject.read F v = (read F v).map object := by
  unfold OrgObject.read read
  cases F.record ["name", "fields"] v with
  | error f => rfl
  | ok given =>
    simp only [ok_bind]
    cases required given "name" F.text with
    | error f => rfl
    | ok name =>
      simp only [ok_bind]
      cases defaulting given "fields" [] (F.list (Field.read F)) with
      | error f => rfl
      | ok fields => exact congrArg Except.ok (object_eq { name := name, fields := fields }).symm

def fieldTree (f : Field) : Tree :=
  .table [("name", .text f.name), ("referenceTo", .texts f.references)]

def tree (d : Description) : Tree :=
  .table [("name", .text d.name), ("fields", .list (d.fields.map fieldTree))]

theorem fieldTree_eq (f : Field) : fieldTree f = .table (Tree.written [
    ("name", some (.text f.name)), ("referenceTo", some (.texts f.references))]) := rfl

theorem tree_eq (d : Description) : d.tree = .table (Tree.written [
    ("name", some (.text d.name)), ("fields", some (.list (d.fields.map fieldTree)))]) := rfl

theorem readField_of_shows (f : Field) {v : ν} (h : F.shows (fieldTree f) v = true) :
    Field.read F v = .ok f := by
  rw [fieldTree_eq] at h
  obtain ⟨given, hg, hp⟩ := Form.record_of_shows ["name", "referenceTo"] (by decide) rfl h
  simp only [List.forall_mem_cons] at hp
  obtain ⟨hn, hr, -⟩ := hp
  have hn' : required given "name" F.text = .ok f.name :=
    Form.required_of_gives hn fun _ => Form.text_of_shows
  have hr' : defaulting given "referenceTo" [] F.texts = .ok f.references :=
    Form.defaulting_of_gives hr fun _ => Form.texts_of_shows
  rw [Field.read, hg, ok_bind, hn', ok_bind, hr']
  rfl

theorem read_of_shows (d : Description) {v : ν} (h : F.shows d.tree v = true) :
    read F v = .ok d := by
  rw [tree_eq] at h
  obtain ⟨given, hg, hp⟩ := Form.record_of_shows ["name", "fields"] (by decide) rfl h
  simp only [List.forall_mem_cons] at hp
  obtain ⟨hn, hf, -⟩ := hp
  have hn' : required given "name" F.text = .ok d.name :=
    Form.required_of_gives hn fun _ => Form.text_of_shows
  have hf' : defaulting given "fields" [] (F.list (Field.read F)) = .ok d.fields :=
    Form.defaulting_of_gives hf fun _ => Form.list_of_shows fun f _ _ => readField_of_shows f
  rw [read, hg, ok_bind, hn', ok_bind, hf']
  rfl

end Description

/-! ## schemas of descriptions -/

namespace Schema

def descriptionsIn (text : String) : Except Fault (List Description) :=
  Json.readAs (Json.form.list (Description.read Json.form)) text

/-- the schema to which the descriptions are added in order -/
def describedBy (ds : List Description) : Schema :=
  ds.foldl (fun s d => s.addObject d.object) {}

theorem describedBy_eq (ds : List Description) :
    describedBy ds = ofObjects (ds.map Description.object) := by
  have h : ∀ s : Schema, ds.foldl (fun s d => s.addObject d.object) s =
      { objects := s.objects.putAll (ds.map Description.object) } := by
    induction ds with
    | nil => exact fun s => rfl
    | cons d ds ih => exact fun s => by rw [List.foldl_cons, ih]; rfl
  exact h {}

theorem ofJson_eq (text : String) : ofJson text = (descriptionsIn text).map describedBy := by
  unfold ofJson descriptionsIn Json.readAs
  cases Json.read? text with
  | none => rfl
  | some v =>
    have hl : Json.form.list (OrgObject.read Json.form) v =
        (Json.form.list (Description.read Json.form) v).map (List.map Description.object) := by
      unfold Form.list
      rw [funext (Description.read_object Json.form)]
      cases Json.form.items? v with
      | none => rfl
      | some items => exact mapM_map _ _ items
    show (Json.form.list (OrgObject.read Json.form) v).map ofObjects =
      (Json.form.list (Description.read Json.form) v).map describedBy
    rw [hl, funext describedBy_eq]
    cases Json.form.list (Description.read Json.form) v <;> rfl

theorem descriptionsIn_print (ds : List Description) :
    descriptionsIn (Json.print (.list (ds.map Description.tree))) = .ok ds := by
  rw [descriptionsIn, Json.readAs, Json.read?_print]
  exact Form.list_of_shows (fun d _ _ => d.read_of_shows) (Json.shows_ofTree _)

/-! ## runs -/

inductive Change where
  | add (d : Description)
  /-- take the schema of a text instead, if the text can be read -/
  | read (text : String)

def Change.on (s : Schema) : Change → Schema
  | .add d => s.addObject d.object
  | .read text =>
    match ofJson text with
    | .ok t => t
    | .error _ => s

def run (cs : List Change) : Schema := cs.foldl Change.on {}

/-- the descriptions given since a text was last read, with those of the text -/
def Change.given (before : List Description) : Change → List Description
  | .add d => before ++ [d]
  | .read text =>
    match descriptionsIn text with
    | .ok ds => ds
    | .error _ => before

/-- the descriptions that the schema of a run goes back to, replaced ones and all -/
def givenBy (cs : List Change) : List Description := cs.foldl Change.given []

theorem given_read {text : String} {ds : List Description} (h : descriptionsIn text = .ok ds)
    (before : List Description) : (Change.read text).given before = ds := by
  rw [Change.given, h]

theorem on_describedBy (ds : List Description) (c : Change) :
    c.on (describedBy ds) = describedBy (c.given ds) := by
  cases c with
  | add d =>
    show (describedBy ds).addObject d.object = describedBy (ds ++ [d])
    rw [describedBy, describedBy, List.foldl_append]
    rfl
  | read text =>
    show (match ofJson text with | .ok t => t | .error _ => describedBy ds) = _
    rw [ofJson_eq, Change.given]
    cases descriptionsIn text <;> rfl

theorem run_eq_describedBy (cs : List Change) : run cs = describedBy (givenBy cs) := by
  -- for a run from the schema of any descriptions
  have h : ∀ ds, cs.foldl Change.on (describedBy ds) = describedBy (cs.foldl Change.given ds) := by
    induction cs with
    | nil => exact fun ds => rfl
    | cons c cs ih => exact fun ds => by rw [List.foldl_cons, on_describedBy, ih, List.foldl_cons]
  exact h []

theorem run_map_add (ds : List Description) : run (ds.map .add) = describedBy ds := by
  rw [run, describedBy, List.foldl_map]
  rfl

/-! ## answers -/

theorem object?_describedBy {ds : List Description} {name : String} {o : OrgObject} :
    (describedBy ds).object? name = some o ↔
      ∃ d, LastOf Description.key ds d ∧ d.key = lowercase name ∧ d.object = o := by
  have hf : (describedBy ds).object? name =
      (ds.reverse.find? fun d => d.key = lowercase name).map Description.object := by
    rw [describedBy_eq]
    show (Roster.ofList (ds.map Description.object) : Roster OrgObject.key).find? _ = _
    rw [Roster.find?_ofList, ← List.map_reverse, List.find?_map]
    simp only [Function.comp_def, Description.key_object]
  rw [hf, Option.map_eq_some_iff]
  simp only [find?_reverse_eq_some_iff]
  constructor
  · rintro ⟨d, ⟨hk, hl⟩, ho⟩
    exact ⟨d, hl, hk, ho⟩
  · rintro ⟨d, hl, hk, ho⟩
    exact ⟨d, ⟨hk, hl⟩, ho⟩

/-- the schema answers from the last description of an object, and there from the last field of a
name; it has the objects that are described -/
structure Tells (s : Schema) (ds : List Description) : Prop where
  field : ∀ object name f, s.field? object name = some f ↔
    ∃ d, LastOf Description.key ds d ∧ d.key = lowercase object ∧
      LastOf Field.key d.fields f ∧ f.key = lowercase name
  noField : ∀ object name d, LastOf Description.key ds d → d.key = lowercase object →
    (s.field? object name = none ↔ ∀ f ∈ d.fields, f.key ≠ lowercase name)
  object : ∀ object, s.hasObject object = true ↔ ∃ d ∈ ds, d.key = lowercase object

theorem field?_describedBy {ds : List Description} {object name : String} {f : Field} :
    (describedBy ds).field? object name = some f ↔
      ∃ d, LastOf Description.key ds d ∧ d.key = lowercase object ∧
        LastOf Field.key d.fields f ∧ f.key = lowercase name := by
  rw [field?, Option.bind_eq_some_iff]
  constructor
  · rintro ⟨o, ho, hf⟩
    obtain ⟨d, hd, hk, rfl⟩ := object?_describedBy.mp ho
    obtain ⟨hn, hl⟩ := Description.field?_object.mp hf
    exact ⟨d, hd, hk, hl, hn⟩
  · rintro ⟨d, hd, hk, hl, hn⟩
    exact ⟨d.object, object?_describedBy.mpr ⟨d, hd, hk, rfl⟩,
      Description.field?_object.mpr ⟨hn, hl⟩⟩

theorem field?_describedBy_eq_none {ds : List Description} {d : Description}
    (hd : LastOf Description.key ds d) {object : String} (hk : d.key = lowercase object)
    {name : String} :
    (describedBy ds).field? object name = none ↔ ∀ f ∈ d.fields, f.key ≠ lowercase name := by
  rw [Option.eq_none_iff_forall_ne_some]
  constructor
  · intro h f hf hn
    obtain ⟨g, hg, hgf⟩ : ∃ g, LastOf Field.key d.fields g ∧ g.key = f.key := exists_lastOf hf
    exact h g (field?_describedBy.mpr ⟨d, hd, hk, hg, hgf.trans hn⟩)
  · intro h f hf
    obtain ⟨e, he, hek, hl, hn⟩ := field?_describedBy.mp hf
    -- the description that answers is the only last one of the object
    obtain rfl : e = d := he.eq_of_key_eq hd (hek.trans hk.symm)
    exact h f hl.mem hn

theorem hasObject_describedBy {ds : List Description} {object : String} :
    (describedBy ds).hasObject object = true ↔ ∃ d ∈ ds, d.key = lowercase object := by
  rw [hasObject, Option.isSome_iff_exists]
  constructor
  · rintro ⟨o, ho⟩
    obtain ⟨d, hd, hk, _⟩ := object?_describedBy.mp ho
    exact ⟨d, hd.mem, hk⟩
  · rintro ⟨d, hd, hk⟩
    obtain ⟨e, he, hek⟩ : ∃ e, LastOf Description.key ds e ∧ e.key = d.key := exists_lastOf hd
    exact ⟨e.object, object?_describedBy.mpr ⟨e, he, hek.trans hk, rfl⟩⟩

theorem tells_run (cs : List Change) : (run cs).Tells (givenBy cs) := by
  rw [run_eq_describedBy]
  exact ⟨fun _ _ _ => field?_describedBy, fun _ _ _ hd hk => field?_describedBy_eq_none hd hk,
    fun _ => hasObject_describedBy⟩

/-- the two schemas say the same about an object -/
structure AgreeOn (s t : Schema) (object : String) : Prop where
  object? : s.object? object = t.object? object
  hasObject : s.hasObject object = t.hasObject object
  field? : ∀ name, s.field? object name = t.field? object name

theorem agreeOn_of_object? {s t : Schema} {object : String}
    (h : s.object? object = t.object? object) : s.AgreeOn t object := by
  refine ⟨h, ?_, ?_⟩
  · rw [hasObject, h]
    rfl
  · intro name
    rw [field?, h]
    rfl

theorem agreeOn_addObject {s : Schema} {o : OrgObject} {object : String}
    (h : lowercase object ≠ o.key) : (s.addObject o).AgreeOn s object := by
  apply agreeOn_of_object?
  rw [object?_addObject, if_neg (Ne.symm h)]

/-! ## the law -/

/-- **After any run a schema answers from the last description of each name; an object that is
added changes no answer about the others; and a schema that is read from a text is the one to which
the descriptions in the text are added in order, whatever they are.** -/
theorem run_tells_last :
    (∀ cs : List Change, (run cs).Tells (givenBy cs)) ∧
    (∀ (s : Schema) (o : OrgObject) (object : String), lowercase object ≠ o.key →
      (s.addObject o).AgreeOn s object) ∧
    (∀ text s, ofJson text = .ok s ↔
      ∃ ds, descriptionsIn text = .ok ds ∧ run (ds.map .add) = s) ∧
    ∀ ds, descriptionsIn (Json.print (.list (ds.map Description.tree))) = .ok ds := by
  refine ⟨tells_run, fun s o object => agreeOn_addObject, ?_, descriptionsIn_print⟩
  intro text s
  rw [ofJson_eq, map_eq_ok]
  simp only [run_map_add]

/-- an account is described twice, with a field given twice, and a text is read in between; of the
first description nothing is left, though it is found in another casing -/
theorem run_tells_last_accounts :
    let parent : Description := { name := "Account", fields := [{ name := "ParentId" }] }
    let account : Description :=
      { name := "ACCOUNT"
        fields := [{ name := "Name" }, { name := "OwnerId" },
          { name := "ownerid", references := ["User", "Group"] }] }
    let text := Json.print (.list ([parent].map Description.tree))
    let cs : List Change := [.add { name := "Lead" }, .read text, .add account]
    givenBy cs = [parent, account] ∧
      (run cs).field? "account" "OWNERID" =
        some { name := "ownerid", references := ["User", "Group"] } ∧
      (run cs).field? "Account" "ParentId" = none ∧
      (run cs).hasObject "Lead" = false ∧
      ((run cs).addObject { name := "Contact" }).AgreeOn (run cs) "account" := by
  intro parent account text cs
  have hp : descriptionsIn text = .ok [parent] := run_tells_last.2.2.2 [parent]
  clear_value text
  have hg : givenBy cs = [parent, account] := by
    show (Change.read text).given [{ name := "Lead" }] ++ [account] = _
    rw [given_read hp]
    rfl
  have ht := run_tells_last.1 cs
  rw [hg] at ht
  have hl : LastOf Description.key [parent, account] account :=
    ⟨[parent], [], rfl, fun _ h => nomatch h⟩
  refine ⟨hg, (ht.field _ _ _).mpr ⟨account, hl, by decide +kernel, ?_, by decide +kernel⟩,
    (ht.noField _ _ account hl (by decide +kernel)).mpr (by decide +kernel), ?_,
    run_tells_last.2.1 _ _ _ (by decide +kernel)⟩
  · exact ⟨[{ name := "Name" }, { name := "OwnerId" }], [], rfl, fun _ h => nomatch h⟩
  · rw [Bool.eq_false_iff, Ne, ht.object]
    decide +kernel

end Schema

end StagedLoad
