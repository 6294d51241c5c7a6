import StagedLoad.Proofs.Export.Partition
import StagedLoad.Proofs.Mapping.Attachment
import StagedLoad.Proofs.Mapping.LoadOrder

/-!
# What becomes of declared fields

In a generated mapping every declaration has its step, in the order of the declarations.  The step
loads the plain fields and behind them the lookups of the declaration, each once; the only
declared fields that it lacks are those that refer to objects none of which is exported
(`loads_of_generate`).

No two declarations are of one object, so the edges that start at an object are those of its
declaration (`startingAt_discover`).
-/

namespace StagedLoad

/-! ## the fields of one declaration -/

namespace Declaration
variable {d : Declaration} {org : OrgView} {ds : List Declaration}

/-- a field, not the record type, that refers to an object among those declared -/
def isLookup (d : Declaration) (org : OrgView) (ds : List Declaration) (field : String) : Bool :=
  field != recordTypeField && (org.field? d.object field).any fun f =>
    f.references.any fun t => t != "" && ds.any fun e => e.object == t

theorem isLookup_eq (d : Declaration) (org : OrgView) (ds : List Declaration) :
    d.isLookup org ds = d.isLookupInto org (exported ds) := by
  funext field
  rw [Bool.eq_iff_iff, isLookupInto_iff, exists_fieldUse_lookup_iff]
  simp only [isLookup, Bool.and_eq_true, bne_iff_ne, Option.any_eq_true, List.any_eq_true,
    beq_iff_eq, mem_exported_iff]

section
variable {c : Classified} (h : (d.classify org (exported ds)).outcome = .ok c)
include h

theorem keys_lookups_of_classify :
    c.lookups.keys = (d.fields.filter (d.isLookup org ds)).eraseDups := by
  rw [lookups_of_classify h, keys_lookupsInto, isLookup_eq]

theorem keys_ofClassified_of_classify :
    (Step.ofClassified c).fields.keys = (d.fields.filter (d.isPlain org)).eraseDups ++
      (d.fields.filter (d.isLookup org ds)).eraseDups := by
  show (Roster.ofList ((c.fields ++ c.lookups.keys).map fun name => (name, name)) :
    Keyed String).keys = _
  have hd : c.lookups.keys.removeAll c.fields = c.lookups.keys := by
    refine List.filter_eq_self.mpr fun name hm => ?_
    have hp : name ∉ c.fields := fun hf => not_mem_keys_lookups h hf hm
    rw [Bool.not_eq_true', ← Bool.not_eq_true, List.elem_iff]
    exact hp
  rw [Roster.keys_ofList, List.map_map]
  show ((c.fields ++ c.lookups.keys).map id).eraseDups = _
  rw [List.map_id, List.eraseDups_append, hd, eraseDups_of_nodup c.lookups.nodup_keys,
    fields_of_classify h, keys_lookups_of_classify h]

end

end Declaration

/-! ## the lookups that are attached -/

namespace Edge
variable {cs : List Classified} {c : Classified}

theorem fields_ofClassified (c : Classified) :
    (ofClassified c).map Edge.field = c.lookups.keys := by
  rw [ofClassified, List.map_map]
  rfl

theorem nodup_ofClassified (c : Classified) : (ofClassified c).Nodup := by
  have h : ((ofClassified c).map Edge.field).Nodup := by
    rw [fields_ofClassified]
    exact c.lookups.nodup_keys
  exact h.of_map

theorem nodup_flatMap_ofClassified (hn : (cs.map Classified.object).Nodup) :
    (cs.flatMap ofClassified).Nodup := by
  rw [List.nodup_flatMap]
  refine ⟨fun c _ => nodup_ofClassified c, (List.pairwise_map.mp hn).imp ?_⟩
  intro c d hcd e hc hd
  rw [← ofClassified_source hc, ← ofClassified_source hd] at hcd
  exact hcd rfl

theorem toList_discover (hn : (cs.map Classified.object).Nodup) :
    (discover cs).toList = cs.flatMap ofClassified := by
  refine Roster.toList_ofList ?_
  rw [List.map_id]
  exact nodup_flatMap_ofClassified hn

theorem filter_source_eq_nil {object : String} (h : ∀ c ∈ cs, c.object ≠ object) :
    (cs.flatMap ofClassified).filter (fun e => e.source = object) = [] := by
  refine List.filter_eq_nil_iff.mpr fun e he => ?_
  obtain ⟨c, hc, he⟩ := List.mem_flatMap.mp he
  rw [ofClassified_source he, decide_eq_true_iff]
  exact h c hc

theorem startingAt_discover (hn : (cs.map Classified.object).Nodup) (hc : c ∈ cs) :
    startingAt (discover cs) c.object = ofClassified c := by
  rw [startingAt, toList_discover hn]
  obtain ⟨before, behind, rfl⟩ := List.append_of_mem hc
  rw [List.map_append, List.map_cons, List.nodup_append] at hn
  obtain ⟨_, hb, hd⟩ := hn
  have hbefore : ∀ d ∈ before, d.object ≠ c.object := fun d hm =>
    hd _ (List.mem_map_of_mem hm) _ (List.mem_cons_self ..)
  have hbehind : ∀ d ∈ behind, d.object ≠ c.object := fun d hm he =>
    (List.nodup_cons.mp hb).1 (he ▸ List.mem_map_of_mem hm)
  have hself : (ofClassified c).filter (fun e => e.source = c.object) = ofClassified c :=
    List.filter_eq_self.mpr fun e he => decide_eq_true (ofClassified_source he)
  rw [List.flatMap_append, List.flatMap_cons, List.filter_append, List.filter_append,
    filter_source_eq_nil hbefore, filter_source_eq_nil hbehind, hself, List.nil_append,
    List.append_nil]

end Edge

namespace Mapping

theorem keys_lookups_attach {cs : List Classified} {c : Classified}
    (hn : (cs.map Classified.object).Nodup) (hc : c ∈ cs)
    (ht : ∀ e ∈ c.lookups.toList, e.2 ≠ []) (loaded : List String) :
    ((Step.ofClassified c).attach (Edge.discover cs) loaded).lookups.keys = c.lookups.keys := by
  have hr : Edge.resolvable (Edge.discover cs) c.object = Edge.ofClassified c := by
    rw [Edge.resolvable, Edge.startingAt_discover hn hc]
    refine List.filter_eq_self.mpr fun e he => ?_
    obtain ⟨⟨field, ts⟩, hm, rfl⟩ := List.mem_map.mp he
    exact decide_eq_true (ht _ hm)
  rw [Step.lookups_attach]
  show (Roster.ofList ((Edge.resolvable (Edge.discover cs) c.object).filterMap
    (Edge.resolved loaded)) : Keyed Lookup).keys = _
  rw [Roster.keys_ofList, Edge.names_resolved, hr, Edge.fields_ofClassified,
    eraseDups_of_nodup c.lookups.nodup_keys]

end Mapping

/-! ## the law -/

/-- the step loads what the declaration exports, and lacks only what it may not load -/
structure Step.Loads (s : Step) (d : Declaration) (org : OrgView) (ds : List Declaration) :
    Prop where
  object : s.object = d.object
  table : s.table = none
  filters : s.filters = d.filters
  recordType : s.recordType = d.recordType
  fields : s.fields.toList = ((d.fields.filter (d.isPlain org)).eraseDups ++
    (d.fields.filter (d.isLookup org ds)).eraseDups).map fun name => (name, name)
  lookups : s.lookups.keys = (d.fields.filter (d.isLookup org ds)).eraseDups
  noRecordType : recordTypeField ∉ s.lookups.keys
  missing : ∀ field ∈ d.fields, field ∉ s.fields.keys ↔ field ≠ recordTypeField ∧
    ∃ f, org.field? d.object field = some f ∧ f.isRelationship = true ∧
      ∀ t ∈ f.references, ∀ e ∈ ds, e.object ≠ "" → t ≠ e.object

namespace Declaration
variable {d : Declaration} {org : OrgView} {ds : List Declaration} {c : Classified}

theorem toList_fields_ofClassified (c : Classified) :
    (Step.ofClassified c).fields.toList =
      (Step.ofClassified c).fields.keys.map fun name => (name, name) := by
  refine Roster.toList_eq_map_keys (f := fun name => (name, name)) fun e he => ?_
  obtain ⟨name, _, rfl⟩ := List.mem_map.mp (Roster.mem_of_mem_ofList he)
  rfl

theorem not_mem_fields_iff (hk : d.KnownTo org) {field : String} (hf : field ∈ d.fields) :
    field ∉ (d.fields.filter (d.isPlain org)).eraseDups ++
        (d.fields.filter (d.isLookup org ds)).eraseDups ↔
      field ≠ recordTypeField ∧ ∃ f, org.field? d.object field = some f ∧
        f.isRelationship = true ∧ ∀ t ∈ f.references, ∀ e ∈ ds, e.object ≠ "" → t ≠ e.object := by
  rw [List.mem_append, List.mem_eraseDups, List.mem_eraseDups, List.mem_filter, List.mem_filter]
  by_cases hr : field = recordTypeField
  · have hp : d.isPlain org field = true := by
      rw [isPlain, hr]
      rfl
    exact iff_of_false (fun h => h (Or.inl ⟨hf, hp⟩)) fun h => h.1 hr
  · obtain ⟨f, ho⟩ := hk.fields field hf hr
    have hp : d.isPlain org field = true ↔ f.references = [] := by
      simp [isPlain, hr, ho]
    have hl : d.isLookup org ds field = true ↔
        ∃ t ∈ f.references, t ≠ "" ∧ ∃ e ∈ ds, e.object = t := by
      simp [isLookup, hr, ho]
    rw [hp, hl]
    simp only [ho, f.isRelationship_iff, Option.some.injEq, exists_eq_left']
    constructor
    · intro h
      refine ⟨hr, fun hn => h (Or.inl ⟨hf, hn⟩), ?_⟩
      intro t ht e he hne hte
      exact h (Or.inr ⟨hf, t, ht, hte ▸ hne, e, he, hte.symm⟩)
    · rintro ⟨_, hne, hts⟩ (⟨_, hn⟩ | ⟨_, t, ht, hte, e, he, rfl⟩)
      · exact hne hn
      · exact hts _ ht e he hte rfl

end Declaration

namespace Mapping
variable {ds : List Declaration} {org : OrgView} {rules : List Rule} {m : Mapping}

theorem loads_attach {cs : List Classified} (hn : (cs.map Classified.object).Nodup)
    {c : Classified} (hc : c ∈ cs) {d : Declaration}
    (h : (d.classify org (Declaration.exported ds)).outcome = .ok c) (loaded : List String) :
    ((Step.ofClassified c).attach (Edge.discover cs) loaded).Loads d org ds := by
  have hk : ((Step.ofClassified c).attach (Edge.discover cs) loaded).lookups.keys =
      (d.fields.filter (d.isLookup org ds)).eraseDups := by
    have ht : ∀ e ∈ c.lookups.toList, e.2 ≠ [] := fun e he =>
      (Declaration.targets_of_classify h he).1
    rw [keys_lookups_attach hn hc ht, Declaration.keys_lookups_of_classify h]
  have hf := Declaration.keys_ofClassified_of_classify h
  refine ⟨Declaration.object_of_classify h, rfl, Declaration.filters_of_classify h,
    Declaration.recordType_of_classify h, ?_, hk, ?_, ?_⟩
  · rw [Step.fields_attach, Declaration.toList_fields_ofClassified, hf]
  · intro hr
    rw [hk, List.mem_eraseDups, List.mem_filter] at hr
    exact absurd hr.2 (by simp [Declaration.isLookup])
  · intro field hm
    rw [Step.fields_attach, hf]
    exact Declaration.not_mem_fields_iff (Declaration.exists_classify_iff.mp ⟨c, h⟩) hm

theorem forall₂_attachLookups {R S : Declaration → Step → Prop} {edges : OrderedSet Edge}
    (hS : ∀ d s loaded, R d s → S d (s.attach edges loaded)) {ss : List Step}
    (h : List.Forall₂ R ds ss) (loaded : List String) :
    List.Forall₂ S ds (attachLookups edges loaded ss) := by
  induction h generalizing loaded with
  | nil => exact .nil
  | cons hr _ ih => exact .cons (hS _ _ _ hr) (ih _)

/-- **A generated mapping has one step for each declaration, in their order, and the step loads
what the declaration exports.** -/
theorem loads_of_generate (h : (generate ds org declarationOrder rules).outcome = .ok m) :
    List.Forall₂ (fun d s => s.Loads d org ds) ds m.toList := by
  obtain ⟨cs, hcs, hn, ht⟩ := toList_of_generate h
  obtain ⟨hl, hz⟩ := List.forall₂_iff_zip.mp (Declaration.classifyAll_eq_ok.mp hcs)
  have hc : List.Forall₂ (fun d s => ∃ c ∈ cs,
      (d.classify org (Declaration.exported ds)).outcome = .ok c ∧ s = Step.ofClassified c)
      ds (cs.map Step.ofClassified) := by
    rw [List.forall₂_map_right_iff, List.forall₂_iff_zip]
    exact ⟨hl, fun hm => ⟨_, (List.of_mem_zip hm).2, hz hm, rfl⟩⟩
  rw [ht]
  refine forall₂_attachLookups ?_ hc []
  rintro d s loaded ⟨c, hm, hd, rfl⟩
  exact loads_attach hn hm hd loaded

/-- fields that are declared twice, a lookup into users, who are not exported, and a lookup that is
declared before a plain field -/
def repetitiveExport : List Declaration :=
  [{ object := "Account"
     fields := ["ParentId", "Name", "OwnerId", "RecordTypeId", "ParentId", "Name"]
     recordType := some "Partner"
     filters := ["Name <> 'x'"] },
   { object := "Contact", fields := ["AccountId", "LastName"] }]

theorem loads_of_generate_repetitive :
    ∃ m, (generate repetitiveExport smallOrg declarationOrder []).outcome = .ok m ∧
      m.toList.map (·.fields.keys) =
        [["Name", "RecordTypeId", "ParentId"], ["LastName", "AccountId"]] ∧
      List.Forall₂ (fun d s => s.Loads d smallOrg repetitiveExport) repetitiveExport
        m.toList := by
  have hk : ((generate repetitiveExport smallOrg declarationOrder []).outcome.toOption.map
      fun m => m.toList.map (·.fields.keys)) =
        some [["Name", "RecordTypeId", "ParentId"], ["LastName", "AccountId"]] := by
    decide +kernel
  obtain ⟨m, hm, hk⟩ := toOption_map_eq_some.mp hk
  exact ⟨m, hm, hk, loads_of_generate hm⟩

end Mapping

end StagedLoad
