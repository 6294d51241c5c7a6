import StagedLoad.Export.Written
import StagedLoad.Proofs.Data.Shown

/-!
# Exports that are kept in files

The readers of declarations, classified declarations, edges and sets of edges undo their writers:
a value that shows the tree that was written is read as what the tree was written of, in whatever
format the value is.
-/

namespace StagedLoad

open Data

variable {ν : Type} {F : Form ν}

namespace Declaration

theorem tree_eq (d : Declaration) : d.tree = .table (Tree.written [
    ("sf_object", some (.text d.object)), ("fields", some (.texts d.fields)),
    ("record_type", d.recordType.map .text), ("filters", Tree.textsUnlessEmpty d.filters)]) := by
  rw [tree, Tree.textIfAny_eq_part, Tree.textsIfAny_eq_part]
  simp only [Tree.written_cons, Tree.written_nil, List.append_assoc, List.append_nil]
  rfl

theorem read_of_shows (d : Declaration) {v : ν} (h : F.shows d.tree v = true) :
    read F v = .ok d := by
  rw [tree_eq] at h
  obtain ⟨given, hg, hp⟩ := Form.record_of_shows
    ["sf_object", "fields", "record_type", "filters"] (by decide) rfl h
  simp only [List.forall_mem_cons] at hp
  obtain ⟨ho, hf, hr, hs, -⟩ := hp
  have ho' : required given "sf_object" F.text = .ok d.object :=
    Form.required_of_gives ho fun _ => Form.text_of_shows
  have hf' : defaulting given "fields" [] F.texts = .ok d.fields :=
    Form.defaulting_of_gives hf fun _ => Form.texts_of_shows
  have hr' : defaulting given "record_type" none F.textIfAny = .ok d.recordType :=
    Form.textIfAny_of_gives hr
  have hs' : defaulting given "filters" [] F.texts = .ok d.filters := Form.texts_of_gives hs
  rw [read, hg, ok_bind, ho', ok_bind, hf', ok_bind, hr', ok_bind, hs']
  rfl

end Declaration

namespace Classified

theorem tree_eq (c : Classified) : c.tree = .table (Tree.written [
    ("sf_object", some (.text c.object)), ("fields", some (.texts c.fields)),
    ("lookups", some (.table (c.lookups.toList.map fun (name, ts) => (name, .texts ts)))),
    ("record_type", c.recordType.map .text), ("filters", Tree.textsUnlessEmpty c.filters)]) := by
  rw [tree, Tree.textIfAny_eq_part, Tree.textsIfAny_eq_part]
  simp only [Tree.written_cons, Tree.written_nil, List.append_assoc, List.append_nil]
  rfl

theorem read_of_shows (c : Classified) {v : ν} (h : F.shows c.tree v = true) :
    read F v = .ok c := by
  rw [tree_eq] at h
  obtain ⟨given, hg, hp⟩ := Form.record_of_shows
    ["sf_object", "fields", "lookups", "record_type", "filters"] (by decide) rfl h
  simp only [List.forall_mem_cons] at hp
  obtain ⟨ho, hf, hl, hr, hs, -⟩ := hp
  have ho' : required given "sf_object" F.text = .ok c.object :=
    Form.required_of_gives ho fun _ => Form.text_of_shows
  have hf' : required given "fields" F.texts = .ok c.fields :=
    Form.required_of_gives hf fun _ => Form.texts_of_shows
  have hl' : required given "lookups" (F.keyed F.texts) = .ok c.lookups :=
    Form.required_of_gives hl fun _ => Form.keyed_of_shows fun _ _ _ => Form.texts_of_shows
  have hr' : defaulting given "record_type" none F.textIfAny = .ok c.recordType :=
    Form.textIfAny_of_gives hr
  have hs' : defaulting given "filters" [] F.texts = .ok c.filters := Form.texts_of_gives hs
  rw [read, hg, ok_bind, ho', ok_bind, hf', ok_bind, hl', ok_bind, hr', ok_bind, hs']
  rfl

end Classified

namespace Edge

theorem tree_eq (e : Edge) : e.tree = .table (Tree.written [
    ("source_table", some (.text e.source)), ("target_tables", some (.texts e.targets)),
    ("field_name", some (.text e.field))]) := rfl

theorem read_of_shows (e : Edge) {v : ν} (h : F.shows e.tree v = true) : read F v = .ok e := by
  rw [tree_eq] at h
  obtain ⟨given, hg, hp⟩ := Form.record_of_shows
    ["source_table", "target_tables", "field_name"] (by decide) rfl h
  simp only [List.forall_mem_cons] at hp
  obtain ⟨hs, ht, hf, -⟩ := hp
  have hs' : required given "source_table" F.text = .ok e.source :=
    Form.required_of_gives hs fun _ => Form.text_of_shows
  have ht' : required given "target_tables" F.texts = .ok e.targets :=
    Form.required_of_gives ht fun _ => Form.texts_of_shows
  have hf' : required given "field_name" F.text = .ok e.field :=
    Form.required_of_gives hf fun _ => Form.text_of_shows
  rw [read, hg, ok_bind, hs', ok_bind, ht', ok_bind, hf']
  rfl

theorem readSet_of_shows (edges : OrderedSet Edge) {v : ν}
    (h : F.shows (treeOfSet edges) v = true) : readSet F v = .ok edges := by
  have hl : F.list (read F) v = .ok edges.toList :=
    Form.list_of_shows (fun e _ _ => e.read_of_shows) h
  rw [readSet, hl]
  exact congrArg Except.ok edges.ofList_toList

end Edge

end StagedLoad
