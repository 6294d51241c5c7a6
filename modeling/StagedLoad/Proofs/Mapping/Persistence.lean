import StagedLoad.Mapping.Written
import StagedLoad.Proofs.Data.Shown

/-!
# Mappings that are kept in files

The readers of lookups, steps, rules and mappings undo their writers: a value that shows the tree
that was written is read as what the tree was written of, in whatever format the value is.  A file
is a text, so its value is what the text is parsed as; that printing and parsing keep a tree is
said of the tree (`Yaml.restores`).  Under this a mapping is read back as it was, with all orders
and all absent parts, and the text that is written of a mapping is a fixed form of it.
-/

namespace StagedLoad

open Data

variable {ν : Type} {F : Form ν}

namespace Lookup

theorem tree_eq (l : Lookup) : l.tree = .table (Tree.written [
    ("table", some (.text l.table)), ("key_field", l.keyField.map .text),
    ("after", some (.flag l.after))]) := by
  rw [tree, Tree.textIfAny_eq_part]
  simp only [Tree.written_cons, Tree.written_nil, List.append_assoc, List.append_nil]
  rfl

theorem read_of_shows (l : Lookup) {v : ν} (h : F.shows l.tree v = true) : read F v = .ok l := by
  rw [tree_eq] at h
  obtain ⟨given, hg, hp⟩ :=
    Form.record_of_shows ["table", "key_field", "after"] (by decide) rfl h
  simp only [List.forall_mem_cons] at hp
  obtain ⟨ht, hk, ha, -⟩ := hp
  have ht' : required given "table" F.text = .ok l.table :=
    Form.required_of_gives ht fun _ => Form.text_of_shows
  have hk' : defaulting given "key_field" none F.textIfAny = .ok l.keyField :=
    Form.textIfAny_of_gives hk
  have ha' : defaulting given "after" false F.flag = .ok l.after :=
    Form.defaulting_of_gives ha fun _ => Form.flag_of_shows
  rw [read, hg, ok_bind, ht', ok_bind, hk', ok_bind, ha']
  rfl

end Lookup

namespace Step

def lookupsUnlessEmpty (lookups : Keyed Lookup) : Option Tree :=
  if lookups.isEmpty then none
  else some (.table (lookups.toList.map fun (name, l) => (name, l.tree)))

theorem lookupsIfAny_eq_part (lookups : Keyed Lookup) :
    lookupsIfAny lookups = Tree.part "lookups" (lookupsUnlessEmpty lookups) := by
  rw [lookupsIfAny, lookupsUnlessEmpty]
  split <;> rfl

theorem tree_eq (s : Step) : s.tree = .table (Tree.written [
    ("sf_object", some (.text s.object)), ("table", s.table.map .text),
    ("fields", some (.table (s.fields.toList.map fun (name, column) => (name, .text column)))),
    ("lookups", lookupsUnlessEmpty s.lookups), ("filters", Tree.textsUnlessEmpty s.filters),
    ("record_type", s.recordType.map .text)]) := by
  rw [tree, Tree.textIfAny_eq_part, Tree.textIfAny_eq_part, Tree.textsIfAny_eq_part,
    lookupsIfAny_eq_part]
  simp only [Tree.written_cons, Tree.written_nil, List.append_assoc, List.append_nil]
  rfl

theorem lookups_of_gives {given : List (String × ν)} {lookups : Keyed Lookup}
    (h : F.Gives given "lookups" (lookupsUnlessEmpty lookups)) :
    defaulting given "lookups" ∅ (F.keyed (Lookup.read F)) = .ok lookups := by
  rw [lookupsUnlessEmpty] at h
  split at h
  · next he =>
    have hl : lookups = ∅ := Roster.ext (List.isEmpty_iff.mp he)
    rw [hl]
    exact Form.defaulting_of_absent h
  · exact Form.defaulting_of_gives h fun _ =>
      Form.keyed_of_shows fun e _ _ => e.2.read_of_shows

theorem read_of_shows (s : Step) {v : ν} (h : F.shows s.tree v = true) : read F v = .ok s := by
  rw [tree_eq] at h
  obtain ⟨given, hg, hp⟩ := Form.record_of_shows
    ["sf_object", "table", "fields", "lookups", "filters", "record_type"] (by decide) rfl h
  simp only [List.forall_mem_cons] at hp
  obtain ⟨ho, ht, hf, hl, hs, hr, -⟩ := hp
  have ho' : required given "sf_object" F.text = .ok s.object :=
    Form.required_of_gives ho fun _ => Form.text_of_shows
  have ht' : defaulting given "table" none F.textIfAny = .ok s.table :=
    Form.textIfAny_of_gives ht
  have hf' : defaulting given "fields" ∅ (F.keyed F.text) = .ok s.fields :=
    Form.defaulting_of_gives hf fun _ => Form.keyed_of_shows fun _ _ _ => Form.text_of_shows
  have hl' : defaulting given "lookups" ∅ (F.keyed (Lookup.read F)) = .ok s.lookups :=
    lookups_of_gives hl
  have hs' : defaulting given "filters" [] F.texts = .ok s.filters := Form.texts_of_gives hs
  have hr' : defaulting given "record_type" none F.textIfAny = .ok s.recordType :=
    Form.textIfAny_of_gives hr
  rw [read, hg, ok_bind, ho', ok_bind, ht', ok_bind, hf', ok_bind, hl', ok_bind, hs', ok_bind, hr']
  rfl

end Step

namespace Rule

theorem tree_eq (r : Rule) : r.tree = .table (Tree.written [
    ("sf_object", some (.text r.object)), ("load_after", some (.texts r.loadAfter))]) := rfl

theorem read_of_shows (r : Rule) {v : ν} (h : F.shows r.tree v = true) : read F v = .ok r := by
  rw [tree_eq] at h
  obtain ⟨given, hg, hp⟩ :=
    Form.record_of_shows ["sf_object", "load_after"] (by decide) rfl h
  simp only [List.forall_mem_cons] at hp
  obtain ⟨ho, hl, -⟩ := hp
  have ho' : required given "sf_object" F.text = .ok r.object :=
    Form.required_of_gives ho fun _ => Form.text_of_shows
  have hl' : defaulting given "load_after" [] F.texts = .ok r.loadAfter :=
    Form.defaulting_of_gives hl fun _ => Form.texts_of_shows
  rw [read, hg, ok_bind, ho', ok_bind, hl']
  rfl

end Rule

namespace Mapping

theorem read_of_shows (m : Mapping) {v : ν} (h : F.shows m.tree v = true) :
    read F v = .ok m := by
  have hk : F.keyed (Step.read F) v = .ok m.steps :=
    Form.keyed_of_shows (fun e _ _ => e.2.read_of_shows) h
  rw [read, hk]
  rfl

/-- nothing is lost before the printing: the tree that is written has the whole mapping -/
theorem read_tree (m : Mapping) : read Form.tree m.tree = .ok m :=
  m.read_of_shows (Form.shows_self m.tree)

end Mapping

/-! ## files -/

namespace Data.Yaml

/-- what is printed of the tree is parsed as a document that shows the tree -/
def restores (t : Tree) : Bool :=
  match Node.ofText (print t) with
  | .ok (some root) => root.form.shows t root
  | _ => false

theorem restores_iff {t : Tree} :
    restores t = true ↔ ∃ root, Node.ofText (print t) = .ok (some root) ∧
      root.form.shows t root = true := by
  unfold restores
  constructor
  · intro h
    split at h
    · next root hr => exact ⟨root, hr, h⟩
    · cases h
  · rintro ⟨root, hr, h⟩
    rw [hr]
    exact h

theorem readAs_print {α : Type} {reader : Form Node → Node → Except Data.Fault α} {t : Tree}
    {a : α} (ht : restores t = true)
    (hr : ∀ (F : Form Node) v, F.shows t v = true → reader F v = .ok a) :
    readAs reader (print t) = .ok a := by
  obtain ⟨root, hp, hs⟩ := restores_iff.mp ht
  have ha : reader root.form root = .ok a := hr _ _ hs
  unfold readAs
  rw [hp]
  dsimp only [Option.getD_some]
  rw [ha]

end Data.Yaml

namespace Mapping

def normalised (text : String) : Except Problem String := (ofYaml text).map toYaml

/-- **A mapping survives being kept in a file.**  Where the printed text is parsed as what was
printed, the mapping that is read from its file is the one that was written, with its names, steps
and parts in their order; and of every text of the mapping that file is the normal form. -/
theorem ofYaml_toYaml {m : Mapping} (h : Yaml.restores m.tree = true) :
    ofYaml m.toYaml = .ok m ∧
    ∀ text, ofYaml text = .ok m →
      normalised text = .ok m.toYaml ∧ normalised m.toYaml = .ok m.toYaml := by
  have hm : ofYaml m.toYaml = .ok m := by
    have hr : Yaml.readAs read m.toYaml = .ok m := Yaml.readAs_print h fun _ _ => m.read_of_shows
    rw [ofYaml, hr]
  have hn : ∀ text, ofYaml text = .ok m → normalised text = .ok m.toYaml := by
    intro text ht
    rw [normalised, ht]
    rfl
  exact ⟨hm, fun text ht => ⟨hn text ht, hn m.toYaml hm⟩⟩

/-- texts that look like something else, and a text that says more than the mapping does -/
theorem ofYaml_toYaml_misleading_texts :
    let step : Step := {
      object := "true"
      fields := Roster.ofList [("null", "- 'c'")]
      lookups := Roster.ofList [("", { table := "1.5", keyField := some "~", after := true })]
      filters := ["a: b", " #\n"] }
    let m : Mapping := { steps := Roster.ofList [("true", step)] }
    let text := "true:\n  filters: ['a: b', \" #\\n\"]\n  sf_object: 'true'\n  note: 1\n" ++
      "  fields:\n    null: \"- 'c'\"\n" ++
      "  lookups:\n    '':\n      after: True\n      key_field: '~'\n      table: 1.5\n"
    Yaml.restores m.tree = true ∧ ofYaml text = .ok m ∧ ofYaml m.toYaml = .ok m ∧
      normalised m.toYaml = .ok m.toYaml := by
  intro step m text
  have h : Yaml.restores m.tree = true := by decide +kernel
  have ht : ofYaml text = .ok m := by decide +kernel
  obtain ⟨hm, hn⟩ := ofYaml_toYaml h
  exact ⟨h, ht, hm, (hn text ht).2⟩

end Mapping

end StagedLoad
