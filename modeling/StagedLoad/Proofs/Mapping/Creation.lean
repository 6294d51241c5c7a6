import StagedLoad.Proofs.Mapping.LoadOrder
import StagedLoad.Proofs.Staging.Creation

/-!
# Creating the staging tables of generated mappings

What the tables of a generated mapping are called, and which columns they have, can be read off
the declarations: a table is named after an object or derived from its name, and the columns of a
staging table are the declared fields that are kept, beside the id and the record type
(`stagedAs_stepsOf`).  So whether the tables can be created depends on names that differ in case
only among these (`creatable_of_generate_iff`).
-/

namespace StagedLoad

/-! ## what declarations stage -/

namespace Declaration

def derivedNames (d : Declaration) : List String :=
  (d.object ++ "_sf_ids") ::
    if recordTypeField ∈ d.fields then [d.object ++ "_rt_mapping", d.object ++ "_rt_target_mapping"]
    else []

/-- a declared field is kept unless it refers to objects of which none is exported -/
def keeps (d : Declaration) (org : OrgView) (ex : List String) (field : String) : Bool :=
  field = recordTypeField || (org.field? d.object field).any fun f =>
    f.references = [] || f.references.any ex.contains

def stagedColumns (d : Declaration) (org : OrgView) (ex : List String) : List String :=
  idColumn :: (d.fields.filter (d.keeps org ex) ++
    if d.recordType.isSome then [recordTypeColumn] else [])

variable {d : Declaration} {org : OrgView} {ex : List String} {c : Classified}

theorem exists_of_mem_derivedNames {name : String} (h : name ∈ d.derivedNames) :
    ∃ p ∈ derivedEndings, name = d.object ++ p := by
  rcases List.mem_cons.mp h with h | h
  · exact ⟨"_sf_ids", by decide, h⟩
  · split at h
    · rcases List.mem_cons.mp h with h | h
      · exact ⟨"_rt_mapping", by decide, h⟩
      · exact ⟨"_rt_target_mapping", by decide, List.mem_singleton.mp h⟩
    · cases h

theorem object_not_mem_derivedNames (d : Declaration) : d.object ∉ d.derivedNames := by
  intro h
  obtain ⟨p, hp, he⟩ := exists_of_mem_derivedNames h
  have hl : d.object.toList = d.object.toList ++ p.toList := by
    rw [← String.toList_append, ← he]
  have hne : ∀ p ∈ derivedEndings, p.toList ≠ [] := by decide
  exact hne p hp (List.self_eq_append_right.mp hl)

theorem foldedApart_names_iff {ds : List Declaration} :
    FoldedApart (ds.flatMap fun d => d.object :: d.derivedNames) ↔
      FoldedApart (ds.map object) ∧
      ∀ a ∈ ds.map object, ∀ b ∈ ds.flatMap derivedNames,
        folded a = folded b → a = b := by
  have hmem : ∀ {a}, a ∈ (ds.flatMap fun d => d.object :: d.derivedNames) ↔
      a ∈ ds.map object ∨ a ∈ ds.flatMap derivedNames := by
    intro a
    simp only [List.mem_flatMap, List.mem_map, List.mem_cons]
    constructor
    · rintro ⟨d, hd, rfl | ha⟩
      · exact Or.inl ⟨d, hd, rfl⟩
      · exact Or.inr ⟨d, hd, ha⟩
    · rintro (⟨d, hd, rfl⟩ | ⟨d, hd, ha⟩)
      · exact ⟨d, hd, Or.inl rfl⟩
      · exact ⟨d, hd, Or.inr ha⟩
  refine ⟨fun h => ⟨h.mono fun a ha => hmem.mpr (Or.inl ha), fun a ha b hb => ?_⟩,
    fun ⟨ho, hd⟩ a ha b hb he => ?_⟩
  · exact h a (hmem.mpr (Or.inl ha)) b (hmem.mpr (Or.inr hb))
  · rcases hmem.mp ha with ha | ha
    · rcases hmem.mp hb with hb | hb
      · exact ho a ha b hb he
      · exact hd a ha b hb he
    · rcases hmem.mp hb with hb | hb
      · exact (hd b hb a ha he.symm).symm
      · -- the endings are the same, so the objects in front of them differ in case only
        obtain ⟨d, hdm, ha⟩ := List.mem_flatMap.mp ha
        obtain ⟨e, hem, hb⟩ := List.mem_flatMap.mp hb
        obtain ⟨p, hp, rfl⟩ := exists_of_mem_derivedNames ha
        obtain ⟨q, hq, rfl⟩ := exists_of_mem_derivedNames hb
        obtain ⟨rfl, hf⟩ := derived_inj_folded hp hq he
        rw [ho _ (List.mem_map_of_mem hdm) _ (List.mem_map_of_mem hem) hf]

theorem keeps_iff {field : String} :
    d.keeps org ex field = true ↔ field = recordTypeField ∨ ∃ f,
      org.field? d.object field = some f ∧ (f.references = [] ∨ ∃ t ∈ f.references, t ∈ ex) := by
  simp [keeps, Option.any_eq_true]

theorem mem_kept (h : (d.classify org ex).outcome = .ok c) {field : String} :
    field ∈ d.fields.filter (d.keeps org ex) ↔ field ∈ c.fields ∨ field ∈ c.lookups.keys := by
  rw [mem_fields_of_classify h, mem_keys_lookups_of_classify h, fieldUse_eq_plain, List.mem_filter,
    keeps_iff, ← and_or_left]
  refine and_congr_right fun _ => ?_
  by_cases hr : field = recordTypeField
  · simp [hr]
  · simp only [hr, false_or, ne_eq, not_false_eq_true, true_and, ← exists_or, ← and_or_left]

end Declaration

/-! ## what steps stage -/

structure Declaration.StagedAs (org : OrgView) (ex : List String) (d : Declaration) (s : Step) :
    Prop where
  tableName : s.tableName = d.object
  derivedNames : s.derivedNames = d.derivedNames
  columns : ∀ column, column ∈ idColumn :: s.stagingColumns ↔ column ∈ d.stagedColumns org ex

namespace Mapping
variable {ds : List Declaration} {org : OrgView} {rules : List Rule} {m : Mapping}

theorem mem_values_ofClassified {c : Classified} {name : String} :
    name ∈ (Step.ofClassified c).fields.values ↔ name ∈ c.fields ∨ name ∈ c.lookups.keys := by
  rw [← mem_fields_ofClassified]
  have h : (Step.ofClassified c).fields.values = (Step.ofClassified c).fields.keys := by
    refine List.map_congr_left fun e he => ?_
    obtain ⟨n, _, rfl⟩ := List.mem_map.mp (Roster.mem_of_mem_ofList he)
    rfl
  rw [h]

theorem mem_stagingColumns_stepsOf {cs : List Classified}
    (hn : (cs.map Classified.object).Nodup) {i : Nat} {c : Classified} (hc : cs[i]? = some c)
    {s : Step} (hs : (stepsOf cs)[i]? = some s) {column : String} :
    column ∈ s.stagingColumns ↔ (column ∈ c.fields ∨ column ∈ c.lookups.keys) ∨
      c.recordType.isSome = true ∧ column = recordTypeColumn := by
  have hf : s.fields = (Step.ofClassified c).fields ∧ s.recordType = c.recordType := by
    rw [getElem?_stepsOf, hc, Option.map_some, Option.some.injEq] at hs
    rw [← hs]
    exact ⟨rfl, rfl⟩
  have hkey : ∀ column ∈ s.lookups.toList.map (fun e => e.2.keyField.getD e.1),
      column ∈ c.lookups.keys := by
    intro column hm
    obtain ⟨⟨field, l⟩, hl, rfl⟩ := List.mem_map.mp hm
    obtain ⟨ts, hm, hk, _⟩ := mem_lookups_stepsOf hn hc hs hl
    rw [hk]
    exact List.mem_map_of_mem (f := Prod.fst) hm
  have hrt : column ∈ (if s.recordType.isSome then [recordTypeColumn] else []) ↔
      c.recordType.isSome = true ∧ column = recordTypeColumn := by
    rw [hf.2]
    split
    · next h => simp [h]
    · next h => simp [h]
  rw [Step.stagingColumns, List.mem_append, List.mem_append, hrt, hf.1, mem_values_ofClassified]
  refine or_congr_left ⟨fun h => ?_, Or.inl⟩
  exact h.elim id fun hm => Or.inr (hkey column hm)

theorem derivedNames_stepsOf {d : Declaration} {ex : List String} {c : Classified}
    (hc : (d.classify org ex).outcome = .ok c) {s : Step} (ho : s.object = d.object)
    (ht : s.tableName = d.object) (hf : s.fields = (Step.ofClassified c).fields) :
    s.derivedNames = d.derivedNames := by
  have hk : s.hasField recordTypeField = true ↔ recordTypeField ∈ d.fields := by
    rw [Step.hasField, Roster.hasKey_iff, hf, mem_fields_ofClassified, ← Declaration.mem_kept hc,
      List.mem_filter, Declaration.keeps_iff]
    exact and_iff_left (Or.inl rfl)
  unfold Step.derivedNames Declaration.derivedNames
  rw [Step.sourceRecordTypes_eq, Step.destinationRecordTypes_eq, ht, ho]
  simp only [hk]
  rfl

theorem stagedAs_stepsOf {cs : List Classified}
    (hcs : (Declaration.classifyAll ds org).outcome = .ok cs)
    (hn : (cs.map Classified.object).Nodup) :
    List.Forall₂ (Declaration.StagedAs org (Declaration.exported ds)) ds (stepsOf cs) := by
  have hall := Declaration.classifyAll_eq_ok.mp hcs
  have hlen : ds.length = (stepsOf cs).length := by
    rw [hall.length_eq, ← List.length_map Classified.object, ← objects_stepsOf, List.length_map]
  refine List.forall₂_iff_zip.mpr ⟨hlen, fun {d s} hm => ?_⟩
  obtain ⟨i, hi⟩ := List.getElem?_of_mem hm
  obtain ⟨hd, hs⟩ := List.getElem?_zip_eq_some.mp hi
  obtain ⟨c, hc, hdc⟩ := exists_getElem?_right hall hd
  have he : (Step.ofClassified c).attach (Edge.discover cs)
      ((cs.take i).map Classified.object).reverse = s := by
    rw [getElem?_stepsOf, hc, Option.map_some, Option.some.injEq] at hs
    exact hs
  have ho : s.object = d.object := by
    rw [← he, ← Declaration.object_of_classify hdc]
    rfl
  have ht : s.tableName = d.object := by
    rw [← he, ← Declaration.object_of_classify hdc]
    rfl
  refine ⟨ht, derivedNames_stepsOf hdc ho ht (by rw [← he]; rfl), fun column => ?_⟩
  rw [List.mem_cons, mem_stagingColumns_stepsOf hn hc hs, ← Declaration.mem_kept hdc,
    Declaration.recordType_of_classify hdc, Declaration.stagedColumns, List.mem_cons,
    List.mem_append]
  refine or_congr_right (or_congr_right ?_)
  split
  · next h => simp [h]
  · next h => simp [h]

/-! ## creation -/

theorem foldedApart_columns_iff {ex : List String} {steps : List Step}
    (hst : List.Forall₂ (Declaration.StagedAs org ex) ds steps) :
    (∀ before s behind, steps = before ++ s :: behind → s.tableName ∉ s.derivedNames →
        (∀ r ∈ behind, s.tableName ∉ r.tableName :: r.derivedNames) →
        FoldedApart (idColumn :: s.stagingColumns)) ↔
      ∀ before d behind, ds = before ++ d :: behind →
        (∀ e ∈ behind, d.object ∉ e.object :: e.derivedNames) →
        FoldedApart (d.stagedColumns org ex) := by
  refine ⟨fun h before d behind he hb => ?_, fun h before s behind he _ hb => ?_⟩
  · rw [he] at hst
    obtain ⟨before', s, behind', he', hs, hr⟩ := exists_split_of_forall₂ hst.flip
    rw [← foldedApart_congr hs.columns]
    refine h before' s behind' he' ?_ fun r hm => ?_
    · rw [hs.tableName, hs.derivedNames]
      exact Declaration.object_not_mem_derivedNames d
    · obtain ⟨e, hem, her⟩ := exists_of_mem_right hr.flip hm
      rw [hs.tableName, her.tableName, her.derivedNames]
      exact hb e hem
  · rw [he] at hst
    obtain ⟨before', d, behind', he', hs, hr⟩ := exists_split_of_forall₂ hst
    rw [foldedApart_congr hs.columns]
    refine h before' d behind' he' fun e hem => ?_
    obtain ⟨r, hm, her⟩ := exists_of_mem_right hr.flip hem
    rw [← hs.tableName, ← her.tableName, ← her.derivedNames]
    exact hb r hm

/-- the staging tables of a generated mapping can be created in a database that ignores case
exactly when no object is declared in two spellings, none but for case under a derived name, and
no two columns of an object differ in case only; the columns are the id, the kept fields and the
record type, and they count unless a declaration behind takes the name of the table -/
theorem creatable_of_generate_iff
    (h : (generate ds org declarationOrder rules).outcome = .ok m) :
    (Catalog.forLoad m.toList).Creatable ↔
      FoldedApart (ds.map Declaration.object) ∧
      (∀ a ∈ ds.map Declaration.object, ∀ b ∈ ds.flatMap Declaration.derivedNames,
        folded a = folded b → a = b) ∧
      ∀ before d behind, ds = before ++ d :: behind →
        (∀ e ∈ behind, d.object ∉ e.object :: e.derivedNames) →
        FoldedApart (d.stagedColumns org (Declaration.exported ds)) := by
  obtain ⟨cs, hcs, hn, ht⟩ := toList_of_generate h
  have hst := stagedAs_stepsOf hcs hn
  have hnames : ((stepsOf cs).flatMap fun s => s.tableName :: s.derivedNames) =
      ds.flatMap fun d => d.object :: d.derivedNames := by
    rw [List.flatMap_def, List.flatMap_def]
    refine congrArg List.flatten (map_eq_map_iff_forall₂.mpr (hst.imp fun d s hs => ?_)).symm
    rw [hs.tableName, hs.derivedNames]
  rw [ht, Catalog.creatable_iff, hnames, Declaration.foldedApart_names_iff,
    foldedApart_columns_iff hst, and_assoc]

theorem creatable_of_generate_small :
    ∃ m, (generate smallExport smallOrg declarationOrder []).outcome = .ok m ∧
      (Catalog.forLoad m.toList).Creatable := by
  have ho : (generate smallExport smallOrg declarationOrder []).outcome.toOption.isSome := by
    decide +kernel
  cases hm : (generate smallExport smallOrg declarationOrder []).outcome with
  | error p =>
    rw [hm] at ho
    cases ho
  | ok m =>
    refine ⟨m, rfl, (creatable_of_generate_iff hm).mpr ⟨by decide, by decide, ?_⟩⟩
    have hall : ∀ d ∈ smallExport,
        FoldedApart (d.stagedColumns smallOrg (Declaration.exported smallExport)) := by
      decide +kernel
    intro before d behind he _
    have hd : d ∈ smallExport := by
      rw [he]
      exact List.mem_append_right _ (List.mem_cons_self ..)
    exact hall d hd

def orgWithIds : Schema := .ofObjects [.ofFields "Account" [{ name := "Id" }, { name := "Name" }]]

def exportWithIds : List Declaration := [{ object := "Account", fields := ["Id", "Name"] }]

/-- a declared `Id` is staged beside the `id` of the staging row -/
theorem not_creatable_declared_id :
    ∃ m, (generate exportWithIds orgWithIds declarationOrder []).outcome = .ok m ∧
      ¬ (Catalog.forLoad m.toList).Creatable := by
  have hc : (generate exportWithIds orgWithIds declarationOrder []).outcome.toOption.map
      (fun m => decide (Catalog.forLoad m.toList).Creatable) = some false := by decide +kernel
  cases hm : (generate exportWithIds orgWithIds declarationOrder []).outcome with
  | error p =>
    rw [hm] at hc
    cases hc
  | ok m =>
    rw [hm] at hc
    exact ⟨m, rfl, of_decide_eq_false (Option.some.inj hc)⟩

end Mapping

end StagedLoad
