import StagedLoad.Export.Classification
import StagedLoad.Proofs.LastItem
import StagedLoad.Proofs.Outcome

/-!
# What classification finds

A declaration that is classified keeps its object, filters and record type.  Its plain fields and
its lookups are the declared fields that are put to these uses (`mem_fields_of_classify`,
`mem_lookups_of_classify`).  A lookup refers to at least one exported object
(`mem_keys_lookups_of_classify`), and its targets are all exported (`targets_of_classify`).
Classifying an export does this for one declaration after the other (`classifyAll_eq_ok`).
-/

namespace StagedLoad.Declaration

variable {d : Declaration} {org : OrgView} {ex : List String}

/-! ## one field -/

theorem fieldUse_recordTypeField : d.fieldUse org ex recordTypeField = .ok .plain := if_pos rfl

theorem fieldUse_eq_ok {field : String} (hr : field ≠ recordTypeField) {use : FieldUse} :
    d.fieldUse org ex field = .ok use ↔
      ∃ f, org.field? d.object field = some f ∧ f.use ex = use := by
  rw [fieldUse, if_neg hr]
  cases org.field? d.object field with
  | none =>
    refine ⟨fun h => ?_, fun ⟨f, hf, _⟩ => ?_⟩
    · cases h
    · cases hf
  | some f =>
    refine ⟨fun h => ⟨f, rfl, Except.ok.inj h⟩, fun ⟨f', hf, hu⟩ => ?_⟩
    cases hf
    exact congrArg Except.ok hu

theorem use_eq (f : Field) (ex : List String) :
    f.use ex =
      if f.references = [] then .plain
      else if f.references.filter ex.contains = [] then .dropped f.references
      else .lookup (f.references.filter ex.contains) := by
  simp only [Field.use, f.isRelationship_iff, List.isEmpty_iff, ne_eq, ite_not]

theorem use_eq_plain {f : Field} : f.use ex = .plain ↔ f.references = [] := by
  rw [use_eq]
  split
  · next hn => exact iff_of_true rfl hn
  · next hn =>
    refine iff_of_false ?_ hn
    split <;> simp

theorem use_eq_lookup {f : Field} {ts : List String} :
    f.use ex = .lookup ts ↔ ts = f.references.filter ex.contains ∧ ts ≠ [] := by
  rw [use_eq]
  split
  · next hn =>
    rw [hn]
    exact iff_of_false (fun h => nomatch h) fun ⟨h, hne⟩ => hne h
  · split
    · next he =>
      rw [he]
      exact iff_of_false (fun h => nomatch h) fun ⟨h, hne⟩ => hne h
    · next he =>
      refine ⟨fun h => ?_, fun ⟨h, _⟩ => congrArg FieldUse.lookup h.symm⟩
      cases h
      exact ⟨rfl, he⟩

theorem fieldUse_eq_plain {field : String} :
    d.fieldUse org ex field = .ok .plain ↔
      field = recordTypeField ∨ ∃ f, org.field? d.object field = some f ∧ f.references = [] := by
  by_cases hr : field = recordTypeField
  · subst hr
    exact iff_of_true fieldUse_recordTypeField (Or.inl rfl)
  · rw [fieldUse_eq_ok hr]
    simp only [use_eq_plain, hr, false_or]

theorem fieldUse_eq_lookup {field : String} {ts : List String} :
    d.fieldUse org ex field = .ok (.lookup ts) ↔ field ≠ recordTypeField ∧
      ∃ f, org.field? d.object field = some f ∧ ts = f.references.filter ex.contains ∧ ts ≠ [] := by
  by_cases hr : field = recordTypeField
  · subst hr
    rw [fieldUse_recordTypeField]
    refine ⟨fun h => ?_, fun ⟨h, _⟩ => absurd rfl h⟩
    cases h
  · rw [fieldUse_eq_ok hr]
    simp only [use_eq_lookup, ne_eq, hr, not_false_eq_true, true_and]

theorem exists_fieldUse_lookup_iff {field : String} :
    (∃ ts, d.fieldUse org ex field = .ok (.lookup ts)) ↔ field ≠ recordTypeField ∧
      ∃ f, org.field? d.object field = some f ∧ ∃ t ∈ f.references, t ∈ ex := by
  simp only [fieldUse_eq_lookup]
  constructor
  · rintro ⟨ts, hr, f, hf, hts, hne⟩
    obtain ⟨t, ht⟩ := List.exists_mem_of_ne_nil ts hne
    rw [hts, List.mem_filter] at ht
    exact ⟨hr, f, hf, t, ht.1, List.contains_iff_mem.mp ht.2⟩
  · rintro ⟨hr, f, hf, t, ht, hx⟩
    have ht' : t ∈ f.references.filter ex.contains :=
      List.mem_filter.mpr ⟨ht, List.contains_iff_mem.mpr hx⟩
    exact ⟨_, hr, f, hf, rfl, List.ne_nil_of_mem ht'⟩

theorem targets_of_fieldUse {field : String} {ts : List String}
    (h : d.fieldUse org ex field = .ok (.lookup ts)) : ts ≠ [] ∧ ∀ t ∈ ts, t ∈ ex := by
  obtain ⟨_, f, _, hts, hne⟩ := fieldUse_eq_lookup.mp h
  refine ⟨hne, fun t ht => ?_⟩
  rw [hts, List.mem_filter] at ht
  exact List.contains_iff_mem.mp ht.2

/-! ## one declaration -/

theorem outcome_classify (d : Declaration) (org : OrgView) (ex : List String) :
    (d.classify org ex).outcome =
      if org.hasObject d.object then
        (d.fields.mapM fun field => (d.fieldUse org ex field).map (field, ·)).map d.sorted
      else .error (.unknownObject d.object) := by
  unfold classify
  split
  · rw [Journal.outcome_bind, Journal.outcome_mapM]
    simp only [outcome_sortField]
    cases d.fields.mapM fun field => (d.fieldUse org ex field).map (field, ·) <;> rfl
  · rfl

theorem classify_eq_ok {c : Classified} :
    (d.classify org ex).outcome = .ok c ↔
      org.hasObject d.object = true ∧ ∃ uses : List (String × FieldUse),
        List.Forall₂ (fun field p => (d.fieldUse org ex field).map (field, ·) = .ok p)
          d.fields uses ∧ c = d.sorted uses := by
  rw [outcome_classify]
  split
  · next h =>
    rw [map_eq_ok]
    exact ⟨fun ⟨uses, hu, hc⟩ => ⟨h, uses, mapM_eq_ok.mp hu, hc.symm⟩,
      fun ⟨_, uses, hu, hc⟩ => ⟨uses, mapM_eq_ok.mpr hu, hc.symm⟩⟩
  · next h =>
    refine ⟨fun e => ?_, fun ⟨h', _⟩ => absurd h' h⟩
    cases e

theorem object_of_classify {c : Classified} (h : (d.classify org ex).outcome = .ok c) :
    c.object = d.object := by
  obtain ⟨_, uses, _, rfl⟩ := classify_eq_ok.mp h
  rfl

theorem recordType_of_classify {c : Classified} (h : (d.classify org ex).outcome = .ok c) :
    c.recordType = d.recordType := by
  obtain ⟨_, uses, _, rfl⟩ := classify_eq_ok.mp h
  rfl

theorem filters_of_classify {c : Classified} (h : (d.classify org ex).outcome = .ok c) :
    c.filters = d.filters := by
  obtain ⟨_, uses, _, rfl⟩ := classify_eq_ok.mp h
  rfl

theorem use_of_mem {uses : List (String × FieldUse)}
    (h : List.Forall₂ (fun field p => (d.fieldUse org ex field).map (field, ·) = .ok p)
      d.fields uses) {field : String} {use : FieldUse} (hm : (field, use) ∈ uses) :
    field ∈ d.fields ∧ d.fieldUse org ex field = .ok use := by
  generalize d.fields = fields at h
  induction h with
  | nil => cases hm
  | cons hp _ ih =>
    rcases List.mem_cons.mp hm with rfl | hm
    · obtain ⟨use', hu, he⟩ := map_eq_ok.mp hp
      cases he
      exact ⟨List.mem_cons_self .., hu⟩
    · exact ⟨List.mem_cons_of_mem _ (ih hm).1, (ih hm).2⟩

theorem mem_lookupFields {uses : List (String × FieldUse)} {field : String} {ts : List String} :
    (field, ts) ∈ lookupFields uses ↔ (field, FieldUse.lookup ts) ∈ uses := by
  unfold lookupFields
  rw [List.mem_filterMap]
  refine ⟨fun ⟨⟨name, use⟩, hm, he⟩ => ?_, fun hm => ⟨(field, .lookup ts), hm, rfl⟩⟩
  cases use with
  | plain => cases he
  | lookup ts' =>
    cases he
    exact hm
  | dropped refs => cases he

theorem exists_use {uses : List (String × FieldUse)}
    (h : List.Forall₂ (fun field p => (d.fieldUse org ex field).map (field, ·) = .ok p)
      d.fields uses) {field : String} (hf : field ∈ d.fields) : ∃ use, (field, use) ∈ uses := by
  obtain ⟨i, hi⟩ := List.getElem?_of_mem hf
  obtain ⟨p, hp, hu⟩ := exists_getElem?_right h hi
  obtain ⟨use, _, rfl⟩ := map_eq_ok.mp hu
  exact ⟨use, List.mem_of_getElem? hp⟩

theorem mem_uses_iff {uses : List (String × FieldUse)}
    (h : List.Forall₂ (fun field p => (d.fieldUse org ex field).map (field, ·) = .ok p)
      d.fields uses) {field : String} {use : FieldUse} :
    (field, use) ∈ uses ↔ field ∈ d.fields ∧ d.fieldUse org ex field = .ok use := by
  refine ⟨use_of_mem h, fun ⟨hf, hu⟩ => ?_⟩
  obtain ⟨use', hm⟩ := exists_use h hf
  have hu' := (use_of_mem h hm).2
  rw [hu] at hu'
  rw [Except.ok.inj hu']
  exact hm

theorem mem_plainFields {uses : List (String × FieldUse)} {field : String} :
    field ∈ plainFields uses ↔ (field, FieldUse.plain) ∈ uses := by
  unfold plainFields
  rw [List.mem_filterMap]
  refine ⟨fun ⟨⟨name, use⟩, hm, he⟩ => ?_, fun hm => ⟨(field, .plain), hm, rfl⟩⟩
  dsimp only at he
  split at he
  · next hu =>
    cases he
    rw [← hu]
    exact hm
  · cases he

theorem mem_fields_of_classify {c : Classified} (h : (d.classify org ex).outcome = .ok c)
    {field : String} :
    field ∈ c.fields ↔ field ∈ d.fields ∧ d.fieldUse org ex field = .ok .plain := by
  obtain ⟨_, uses, hu, rfl⟩ := classify_eq_ok.mp h
  exact mem_plainFields.trans (mem_uses_iff hu)

theorem mem_lookups_of_classify {c : Classified} (h : (d.classify org ex).outcome = .ok c)
    {field : String} {ts : List String} :
    (field, ts) ∈ c.lookups.toList ↔
      field ∈ d.fields ∧ d.fieldUse org ex field = .ok (.lookup ts) := by
  obtain ⟨_, uses, hu, rfl⟩ := classify_eq_ok.mp h
  refine ⟨fun hm => (mem_uses_iff hu).mp (mem_lookupFields.mp (Roster.mem_of_mem_ofList hm)), ?_⟩
  intro hf
  have hm : (field, ts) ∈ lookupFields uses := mem_lookupFields.mpr ((mem_uses_iff hu).mpr hf)
  obtain ⟨⟨name, us⟩, hl, rfl⟩ : ∃ p, LastOf Prod.fst (lookupFields uses) p ∧ p.1 = field :=
    exists_lastOf hm
  have hus := ((mem_uses_iff hu).mp (mem_lookupFields.mp hl.mem)).2
  rw [hf.2] at hus
  obtain rfl := FieldUse.lookup.inj (Except.ok.inj hus)
  exact Roster.mem_ofList_iff_lastOf.mpr hl

/-- a declared field is kept as a lookup when it is not the record type and one of the objects it
refers to is exported -/
theorem mem_keys_lookups_of_classify {c : Classified} (h : (d.classify org ex).outcome = .ok c)
    {field : String} :
    field ∈ c.lookups.keys ↔ field ∈ d.fields ∧ field ≠ recordTypeField ∧
      ∃ f, org.field? d.object field = some f ∧ ∃ t ∈ f.references, t ∈ ex := by
  rw [← exists_fieldUse_lookup_iff, Roster.keys, List.mem_map]
  constructor
  · rintro ⟨⟨name, ts⟩, hm, rfl⟩
    obtain ⟨hf, hu⟩ := (mem_lookups_of_classify h).mp hm
    exact ⟨hf, ts, hu⟩
  · rintro ⟨hf, ts, hu⟩
    exact ⟨(field, ts), (mem_lookups_of_classify h).mpr ⟨hf, hu⟩, rfl⟩

theorem targets_of_classify {c : Classified} (h : (d.classify org ex).outcome = .ok c)
    {field : String} {ts : List String} (hm : (field, ts) ∈ c.lookups.toList) :
    ts ≠ [] ∧ ∀ t ∈ ts, t ∈ ex := by
  exact targets_of_fieldUse ((mem_lookups_of_classify h).mp hm).2

/-! ## an export -/

theorem classifyAll_eq_ok {ds : List Declaration} {cs : List Classified} :
    (classifyAll ds org).outcome = .ok cs ↔
      List.Forall₂ (fun d c => (d.classify org (exported ds)).outcome = .ok c) ds cs := by
  rw [classifyAll, Journal.outcome_mapM, mapM_eq_ok]

theorem mem_exported {ds : List Declaration} {name : String} (h : name ∈ exported ds) :
    name ∈ ds.map object := (List.mem_filter.mp h).1

theorem mem_exported_iff {ds : List Declaration} {name : String} :
    name ∈ exported ds ↔ name ≠ "" ∧ ∃ d ∈ ds, d.object = name := by
  rw [exported, List.mem_filter, List.mem_map, and_comm]
  simp

theorem objects_of_classifyAll {ds : List Declaration} {cs : List Classified}
    (h : (classifyAll ds org).outcome = .ok cs) : cs.map Classified.object = ds.map object := by
  rw [classifyAll_eq_ok] at h
  generalize exported ds = ex at h
  induction h with
  | nil => rfl
  | cons hc _ ih => rw [List.map_cons, List.map_cons, ih, object_of_classify hc]

theorem targets_of_classifyAll {ds : List Declaration} {cs : List Classified}
    (h : (classifyAll ds org).outcome = .ok cs) {c : Classified} (hc : c ∈ cs) {field : String}
    {ts : List String} (hm : (field, ts) ∈ c.lookups.toList) :
    ts ≠ [] ∧ ∀ t ∈ ts, t ∈ cs.map Classified.object := by
  rw [objects_of_classifyAll h]
  obtain ⟨d, _, hd⟩ := exists_of_mem_right (classifyAll_eq_ok.mp h) hc
  obtain ⟨hne, hts⟩ := targets_of_classify hd hm
  exact ⟨hne, fun t ht => mem_exported (hts t ht)⟩

end StagedLoad.Declaration
