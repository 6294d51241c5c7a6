import StagedLoad.Proofs.Mapping.LoadOrder
import StagedLoad.Proofs.Query.Columns

/-!
# Loading generated mappings

The catalog that is derived from steps serves every one of them, as long as the names of their
tables stay apart and lookups point at staging tables of steps (`serves_forLoad`).  The steps of a
generated mapping are of that kind unless an object is declared under a derived name, so all their
load plans are composed from the derived catalog (`loadPlan_of_generate`).
-/

namespace StagedLoad

/-! ## derived catalogs -/

namespace Catalog

theorem stagingTable_mem_tablesOf (s : Step) : stagingTable s ∈ tablesOf s :=
  List.mem_append_left _ (List.mem_cons_self ..)

theorem idMapping_mem_tablesOf (s : Step) : .idMapping s.tableName ∈ tablesOf s :=
  List.mem_append_left _ (List.mem_cons_of_mem _ (List.mem_cons_self ..))

theorem recordTypeMapping_mem_tablesOf {s : Step} (h : s.hasField recordTypeField = true)
    {name : String} (hn : name ∈ [s.sourceRecordTypes, s.destinationRecordTypes]) :
    .recordTypeMapping name ∈ tablesOf s := by
  refine List.mem_append_right _ ?_
  rw [if_pos h]
  exact List.mem_map_of_mem (f := Table.recordTypeMapping) hn

variable {steps : List Step}

theorem NamesApart.ne_recordTypes (h : NamesApart steps) {s : Step} (hs : s ∈ steps) :
    ∀ name ∈ [s.sourceRecordTypes, s.destinationRecordTypes], s.tableName ≠ name := by
  have ho : s.object ∈ [s.tableName, s.object] :=
    List.mem_cons_of_mem _ (List.mem_cons_self ..)
  intro name hn
  rcases List.mem_cons.mp hn with rfl | hn
  · exact h.noneDerived s hs s hs s.object ho "_rt_mapping" (by decide)
  · obtain rfl := List.mem_singleton.mp hn
    exact h.noneDerived s hs s hs s.object ho "_rt_target_mapping" (by decide)

theorem serves_forLoad (h : NamesApart steps)
    (ht : ∀ s ∈ steps, ∀ e ∈ s.insertLookups, e.2.table ∈ steps.map Step.tableName) {s : Step}
    (hs : s ∈ steps) : (forLoad steps).Serves s (stagingTable s) where
  staging := table_forLoad h hs (stagingTable_mem_tablesOf s)
  rowId := by
    rw [rowId_stagingTable, hasColumn_stagingTable]
    exact Or.inl rfl
  -- every column of a field is a staging column, and so is the best guess of every lookup
  direct column hc := by
    obtain ⟨e, he, rfl⟩ := List.mem_map.mp hc
    rw [hasColumn_stagingTable]
    exact Or.inr (Or.inl (List.mem_map_of_mem (f := Prod.snd) (List.mem_filter.mp he).1))
  keys := by
    intro ⟨name, l⟩ he
    refine ⟨_, Lookup.keyFieldIn_of_hasColumn ?_⟩
    rw [hasColumn_stagingTable]
    exact Or.inr (Or.inr (Or.inl
      (List.mem_map_of_mem (f := fun e => e.2.keyField.getD e.1) (Step.mem_insertLookups.mp he).1)))
  -- the table of ids is registered by the step that the lookup points at
  ids e he := by
    obtain ⟨t, hm, hn⟩ := List.mem_map.mp (ht s hs e he)
    rw [← hn]
    exact table_forLoad h hm (idMapping_mem_tablesOf t)
  recordType column hf := by
    have hm : (recordTypeField, column) ∈ s.fields.toList := Keyed.mem_of_get? hf
    have hk : s.hasField recordTypeField = true :=
      (Roster.hasKey_iff _ _).mpr (List.mem_map_of_mem (f := Prod.fst) hm)
    refine ⟨?_, fun name hn => table_forLoad h hs (recordTypeMapping_mem_tablesOf hk hn)⟩
    rw [hasColumn_stagingTable]
    exact Or.inr (Or.inl (List.mem_map_of_mem (f := Prod.snd) hm))
  apart := by
    rw [name_stagingTable]
    exact h.ne_recordTypes hs

end Catalog

/-! ## generated mappings -/

namespace Mapping
variable {ds : List Declaration} {org : OrgView} {rules : List Rule} {m : Mapping}

theorem tableName_of_mem_stepsOf {cs : List Classified} {s : Step} (hs : s ∈ stepsOf cs) :
    s.tableName = s.object := by
  obtain ⟨i, hi⟩ := List.getElem?_of_mem hs
  obtain ⟨c, _, rfl⟩ := getElem?_stepsOf_eq_some.mp hi
  rfl

theorem tableNames_stepsOf (cs : List Classified) :
    (stepsOf cs).map Step.tableName = cs.map Classified.object := by
  rw [← objects_stepsOf]
  exact List.map_congr_left fun s hs => tableName_of_mem_stepsOf hs

theorem namesApart_stepsOf {cs : List Classified} (hn : (cs.map Classified.object).Nodup)
    (hd : ∀ a ∈ cs.map Classified.object, ∀ b ∈ cs.map Classified.object,
      ∀ p ∈ derivedEndings, a ≠ b ++ p) :
    Catalog.NamesApart (stepsOf cs) where
  distinct := by
    rw [tableNames_stepsOf]
    exact hn
  noneDerived := by
    rw [← objects_stepsOf] at hd
    intro s hs t ht a ha p hp
    have ha : a = t.object := by
      rw [tableName_of_mem_stepsOf ht] at ha
      simpa using ha
    rw [tableName_of_mem_stepsOf hs, ha]
    exact hd _ (List.mem_map_of_mem hs) _ (List.mem_map_of_mem ht) p hp

theorem table_mem_stepsOf {cs : List Classified}
    (hcs : (Declaration.classifyAll ds org).outcome = .ok cs)
    (hn : (cs.map Classified.object).Nodup) {s : Step} (hs : s ∈ stepsOf cs)
    {e : String × Lookup} (he : e ∈ s.lookups.toList) :
    e.2.table ∈ (stepsOf cs).map Step.tableName := by
  obtain ⟨i, hi⟩ := List.getElem?_of_mem hs
  obtain ⟨c, hc, _⟩ := getElem?_stepsOf_eq_some.mp hi
  obtain ⟨ts, hm, _⟩ := mem_lookups_stepsOf hn hc hi he
  rw [tableNames_stepsOf]
  exact (Declaration.targets_of_classifyAll hcs (List.mem_of_getElem? hc) hm).2 _
    (List.mem_cons_self ..)

/-- **Every step of a generated mapping can be loaded from the catalog that is derived from the
mapping, and its query reads only columns that are there.** -/
theorem loadPlan_of_generate (h : (generate ds org declarationOrder rules).outcome = .ok m)
    (hd : ∀ d ∈ ds, ∀ e ∈ ds, ∀ p ∈ derivedEndings, d.object ≠ e.object ++ p)
    (settings : QuerySettings) {s : Step} (hs : s ∈ m.toList) :
    ∃ model plan, (Catalog.forLoad m.toList).table s.tableName = .ok model ∧
      (s.loadPlan (Catalog.forLoad m.toList) model settings).outcome = .ok plan ∧
      plan.ColumnsIn (Catalog.forLoad m.toList) := by
  obtain ⟨cs, hcs, hn, ht⟩ := toList_of_generate h
  rw [ht] at hs ⊢
  have hapart : Catalog.NamesApart (stepsOf cs) := by
    refine namesApart_stepsOf hn ?_
    rw [Declaration.objects_of_classifyAll hcs]
    simp only [List.forall_mem_map]
    exact hd
  have hserves := Catalog.serves_forLoad hapart
    (fun s hs e he => table_mem_stepsOf hcs hn hs (List.mem_filter.mp he).1) hs
  obtain ⟨plan, hp, hc⟩ := hserves.exists_loadPlan settings
  refine ⟨_, plan, ?_, hp, hc⟩
  rw [← Catalog.name_stagingTable s]
  exact hserves.staging

/-- contacts, with person accounts in use and a record type to be converted -/
theorem loadPlan_of_generate_small :
    ∃ m s model plan, (generate smallExport smallOrg declarationOrder []).outcome = .ok m ∧
      m.toList[1]? = some s ∧ s.object = "Contact" ∧
      (Catalog.forLoad m.toList).table s.tableName = .ok model ∧
      (s.loadPlan (Catalog.forLoad m.toList) model
        { dialect := .sqlite, personAccounts := true }).outcome = .ok plan ∧
      plan.ColumnsIn (Catalog.forLoad m.toList) := by
  have ho : ((generate smallExport smallOrg declarationOrder []).outcome.toOption.bind
      fun m => m.toList[1]?.map Step.object) = some "Contact" := by decide +kernel
  cases hm : (generate smallExport smallOrg declarationOrder []).outcome with
  | error p => rw [hm] at ho; cases ho
  | ok m =>
    rw [hm] at ho
    obtain ⟨s, hs, ho⟩ := Option.map_eq_some_iff.mp ho
    obtain ⟨model, plan, ht, hp, hc⟩ := loadPlan_of_generate hm (by decide)
      { dialect := .sqlite, personAccounts := true } (List.mem_of_getElem? hs)
    exact ⟨m, s, model, plan, rfl, hs, ho, ht, hp, hc⟩

end Mapping

end StagedLoad
