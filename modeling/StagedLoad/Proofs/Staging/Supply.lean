import StagedLoad.Proofs.Staging.LastTables

/-!
# Which steps a derived catalog supplies

A step is supplied by a catalog when the catalog holds its staging table with all columns that the
step reads, its table of ids and its tables of record types (`Catalog.Supplies`).  The catalog
that is derived from steps registers all these tables, but of the tables of one name it holds the
last one only.  So it supplies every step exactly when the last table of each name has the columns
of all others (`supplies_forLoad_iff`): steps with a staging table in common are supplied when the
last of them maps every column that the others map.
-/

namespace StagedLoad

def Step.stagingColumns (s : Step) : List String :=
  s.fields.values ++ s.lookups.toList.map (fun e => e.2.keyField.getD e.1) ++
    if s.recordType.isSome then [recordTypeColumn] else []

/-- the catalog has the tables that a step is loaded from, with the columns that are asked for -/
structure Catalog.Supplies (c : Catalog) (s : Step) : Prop where
  staging : ∃ t, c.table s.tableName = .ok t ∧ t.primaryKey = some idColumn ∧
    ∀ column ∈ s.stagingColumns, t.hasColumn column = true
  ids : ∃ t, c.table (idTableName s.tableName) = .ok t ∧
    ∀ column ∈ [idColumn, orgIdColumn], t.hasColumn column = true
  recordTypes : s.hasField recordTypeField = true →
    ∀ name ∈ [s.sourceRecordTypes, s.destinationRecordTypes], ∃ t, c.table name = .ok t ∧
      ∀ column ∈ [recordTypeIdColumn, developerNameColumn], t.hasColumn column = true

/-- every column of the other table is one of this table -/
def Table.Covers (u t : Table) : Prop :=
  ∀ column, t.hasColumn column = true → u.hasColumn column = true

namespace Table

theorem covers_idMapping {u : Table} {a : String} :
    u.Covers (.idMapping a) ↔ ∀ column ∈ [idColumn, orgIdColumn], u.hasColumn column = true := by
  simp only [Covers, hasColumn_idMapping, List.mem_cons, List.not_mem_nil, or_false]

theorem covers_recordTypeMapping {u : Table} {name : String} :
    u.Covers (.recordTypeMapping name) ↔
      ∀ column ∈ [recordTypeIdColumn, developerNameColumn], u.hasColumn column = true := by
  simp only [Covers, hasColumn_recordTypeMapping, List.mem_cons, List.not_mem_nil, or_false]

end Table

namespace Catalog

theorem hasColumn_stagingTable_iff {s : Step} {column : String} :
    (stagingTable s).hasColumn column = true ↔ column ∈ idColumn :: s.stagingColumns := by
  rw [hasColumn_stagingTable, Step.stagingColumns, List.mem_cons, List.mem_append, List.mem_append,
    or_assoc]
  split
  · next h => simp [h]
  · next h => simp [h]

theorem covers_stagingTable {u : Table} {s : Step} :
    u.Covers (stagingTable s) ↔
      ∀ column ∈ idColumn :: s.stagingColumns, u.hasColumn column = true := by
  simp only [Table.Covers, hasColumn_stagingTable_iff]

/-! ## one step -/

section
variable {steps : List Step} {s : Step} {t u : Table}

theorem primaryKey_of_hasColumn (hu : u ∈ steps.flatMap tablesOf)
    (h : u.hasColumn idColumn = true) : u.primaryKey = some idColumn := by
  obtain ⟨r, _, hr⟩ := List.mem_flatMap.mp hu
  rcases mem_tablesOf hr with rfl | ⟨p, _, a, _, rfl⟩
  · exact primaryKey_stagingTable r
  · unfold derivedTable at h ⊢
    split at h
    · next hp =>
      rw [if_pos hp]
      rfl
    · rcases (Table.hasColumn_recordTypeMapping _ _).mp h with h | h
      · exact absurd h (by decide)
      · exact absurd h (by decide)

/-- a catalog derived from steps supplies one of them when each table of the step is covered by
the one that is found under its name -/
theorem supplies_iff_covers (hs : s ∈ steps) :
    (forLoad steps).Supplies s ↔
      ∀ t ∈ tablesOf s, ∀ u, (forLoad steps).table t.name = .ok u → u.Covers t := by
  have hmem : ∀ {t}, t ∈ tablesOf s → t ∈ steps.flatMap tablesOf :=
    fun ht => List.mem_flatMap.mpr ⟨s, hs, ht⟩
  refine ⟨fun h t ht u hu => ?_, fun h => ⟨?_, ?_, fun hf name hn => ?_⟩⟩
  · rw [tablesOf_eq, List.mem_cons, mem_derivedTables_iff] at ht
    rcases ht with rfl | rfl | ⟨hf, name, hn, rfl⟩
    · obtain ⟨v, hv, hk, hc⟩ := h.staging
      rw [name_stagingTable, hv] at hu
      obtain rfl : v = u := Except.ok.inj hu
      rw [covers_stagingTable, List.forall_mem_cons]
      exact ⟨(v.hasColumn_iff _).mpr (v.primaryKey_mem _ hk), hc⟩
    · obtain ⟨v, hv, hc⟩ := h.ids
      rw [Table.name_idMapping, hv] at hu
      obtain rfl : v = u := Except.ok.inj hu
      exact Table.covers_idMapping.mpr hc
    · obtain ⟨v, hv, hc⟩ := h.recordTypes hf name hn
      rw [Table.name_recordTypeMapping, hv] at hu
      obtain rfl : v = u := Except.ok.inj hu
      exact Table.covers_recordTypeMapping.mpr hc
  · have ht : stagingTable s ∈ tablesOf s := List.mem_cons_self ..
    obtain ⟨u, hu⟩ := exists_table_forLoad (hmem ht)
    have hc := covers_stagingTable.mp (h _ ht u hu)
    rw [List.forall_mem_cons] at hc
    have hm : u ∈ steps.flatMap tablesOf := (table_forLoad_eq_ok.mp hu).2.mem
    rw [name_stagingTable] at hu
    exact ⟨u, hu, primaryKey_of_hasColumn hm hc.1, hc.2⟩
  · have ht : .idMapping s.tableName ∈ tablesOf s :=
      List.mem_cons_of_mem _ (List.mem_cons_self ..)
    obtain ⟨u, hu⟩ := exists_table_forLoad (hmem ht)
    exact ⟨u, hu, Table.covers_idMapping.mp (h _ ht u hu)⟩
  · have ht : .recordTypeMapping name ∈ tablesOf s :=
      List.mem_cons_of_mem _ (mem_derivedTables_iff.mpr (Or.inr ⟨hf, name, hn, rfl⟩))
    obtain ⟨u, hu⟩ := exists_table_forLoad (hmem ht)
    exact ⟨u, hu, Table.covers_recordTypeMapping.mp (h _ ht u hu)⟩

end

/-! ## steps with a staging table in common -/

section
variable {steps : List Step}

theorem table_of_lastStep (hd : NoneDerived steps) {t : Step} (ht : LastOf Step.tableName steps t) :
    (forLoad steps).table t.tableName = .ok (stagingTable t) := by
  obtain ⟨before, behind, rfl, hb⟩ := ht
  have hne : ∀ r ∈ before ++ t :: behind, t.tableName ∉ r.derivedNames := by
    intro r hr hn
    rw [← names_derivedTables] at hn
    obtain ⟨u, hu, he⟩ := List.mem_map.mp hn
    obtain ⟨p, hp, a, ha, rfl⟩ := mem_derivedTables hu
    rw [name_derivedTable] at he
    exact hd t (by simp) r hr a ha p hp he.symm
  refine table_forLoad_eq_ok.mpr ⟨name_stagingTable t, lastOf_stagingTable (hne t (by simp)) ?_⟩
  intro r hr hm
  rcases List.mem_cons.mp hm with hm | hm
  · exact hb r hr hm.symm
  · exact hne r (by simp [hr]) hm

theorem supplies_iff_lastStep (hd : NoneDerived steps) {s : Step} (hs : s ∈ steps) :
    (forLoad steps).Supplies s ↔
      ∀ t, LastOf Step.tableName steps t → t.tableName = s.tableName →
        s.stagingColumns ⊆ idColumn :: t.stagingColumns := by
  rw [supplies_iff_covers hs, tablesOf_eq, List.forall_mem_cons, name_stagingTable]
  refine ⟨fun ⟨hc, _⟩ t ht hn column hm => ?_, fun h => ⟨fun u hu => ?_, fun t ht u hu => ?_⟩⟩
  · have hu := table_of_lastStep hd ht
    rw [hn] at hu
    have hcov := covers_stagingTable.mp (hc _ hu)
    exact hasColumn_stagingTable_iff.mp (hcov column (List.mem_cons_of_mem _ hm))
  · obtain ⟨t, ht, hn⟩ : ∃ t, LastOf Step.tableName steps t ∧ t.tableName = s.tableName :=
      exists_lastOf hs
    have hu' := table_of_lastStep hd ht
    rw [hn, hu] at hu'
    obtain rfl : u = stagingTable t := Except.ok.inj hu'
    rw [covers_stagingTable]
    intro column hm
    rw [hasColumn_stagingTable_iff]
    rcases List.mem_cons.mp hm with rfl | hm
    · exact List.mem_cons_self ..
    · exact h t ht hn hm
  · -- a derived table has no other form
    obtain ⟨hn, hl⟩ := table_forLoad_eq_ok.mp hu
    obtain rfl := hd.eq_of_name_eq hs ht hl.mem hn
    exact fun _ hc => hc

/-- a catalog derived from steps supplies all of them exactly when the last table of each name
covers the others; for names that do not coincide with derived ones this says that the last step
with a staging table maps every column that the others map -/
theorem supplies_forLoad_iff (steps : List Step) :
    ((∀ s ∈ steps, (forLoad steps).Supplies s) ↔
      ∀ t ∈ steps.flatMap tablesOf, ∀ u, LastOf Table.name (steps.flatMap tablesOf) u →
        u.name = t.name → u.Covers t) ∧
    (NoneDerived steps →
      ((∀ s ∈ steps, (forLoad steps).Supplies s) ↔
        ∀ s ∈ steps, ∀ t, LastOf Step.tableName steps t → t.tableName = s.tableName →
          s.stagingColumns ⊆ idColumn :: t.stagingColumns)) := by
  refine ⟨?_, fun hd => forall₂_congr fun s hs => supplies_iff_lastStep hd hs⟩
  refine ⟨fun h t ht u hu hn => ?_, fun h s hs => (supplies_iff_covers hs).mpr ?_⟩
  · obtain ⟨s, hs, hst⟩ := List.mem_flatMap.mp ht
    exact (supplies_iff_covers hs).mp (h s hs) t hst u (table_forLoad_eq_ok.mpr ⟨hn, hu⟩)
  · intro t ht u hu
    obtain ⟨hn, hl⟩ := table_forLoad_eq_ok.mp hu
    exact h t (List.mem_flatMap.mpr ⟨s, hs, ht⟩) u hl hn

def sharedTable : List Step :=
  [{ object := "Account", table := some "people", fields := Roster.ofList [("Name", "name")] },
    { object := "Contact", table := some "people",
      fields := Roster.ofList [("LastName", "last_name")] }]

theorem not_supplies_sharedTable :
    (sharedTable.map Step.object).Nodup ∧
      ¬ ∀ s ∈ sharedTable, (forLoad sharedTable).Supplies s := by
  refine ⟨by decide, fun h => ?_⟩
  obtain ⟨t, ht, _, hc⟩ := (h _ (List.mem_cons_self ..)).staging
  have hp : ((forLoad sharedTable).table "people").map (·.hasColumn "name") = .ok false := by
    decide
  have hn : t.hasColumn "name" = true := hc "name" (by decide)
  have he : (forLoad sharedTable).table "people" = .ok t := ht
  rw [he, Except.map, hn] at hp
  cases hp

end

end Catalog

end StagedLoad
