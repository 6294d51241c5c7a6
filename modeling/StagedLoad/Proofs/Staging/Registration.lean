import StagedLoad.Proofs.Staging.DerivedNames
import StagedLoad.Staging.Catalog

/-!
# Tables that are registered together

A catalog finds its tables under their own names and under no others (`table_eq_ok_iff`).  Of the
tables that are registered under one name the last one counts (`table_addAll`).  Among the
tables that steps work against, staging tables are called by the steps and all others by derived
names, so as long as no staging table bears the name of another or a derived one, every table is
found under its name as it was registered (`table_forLoad`).
-/

namespace StagedLoad

/-! ## columns -/

namespace Table

theorem nodup_columns (t : Table) : t.columns.toList.Nodup := by
  have h := t.columns.distinct
  rw [List.map_id] at h
  exact h

theorem hasColumn_named (name column : String) : (named name).hasColumn column = false := rfl

theorem hasColumn_markKey (t : Table) (c d : String) :
    (t.markKey c).hasColumn d = true ↔ t.hasColumn d = true ∨ d = c := by
  rw [hasColumn_iff, hasColumn_iff]
  show d ∈ (withFront t.columns c).toList ↔ _
  unfold withFront
  split
  · next h => exact ⟨Or.inl, fun o => o.elim id fun e => e ▸ h⟩
  · rw [List.mem_cons, or_comm]

theorem hasColumn_addColumns (t : Table) (cs : List String) (d : String) :
    (t.addColumns cs).hasColumn d = true ↔ t.hasColumn d = true ∨ d ∈ cs := by
  induction cs generalizing t with
  | nil => simp [addColumns_nil]
  | cons c cs ih =>
    rw [addColumns_cons, ih, hasColumn_addColumn, Bool.or_eq_true, decide_eq_true_iff,
      List.mem_cons, or_assoc]

theorem hasColumn_idMapping (table column : String) :
    (idMapping table).hasColumn column = true ↔ column = idColumn ∨ column = orgIdColumn := by
  rw [idMapping, hasColumn_addColumn, Bool.or_eq_true, decide_eq_true_iff, hasColumn_markKey,
    hasColumn_named]
  simp

theorem hasColumn_recordTypeMapping (name column : String) :
    (recordTypeMapping name).hasColumn column = true ↔
      column = recordTypeIdColumn ∨ column = developerNameColumn := by
  rw [recordTypeMapping, hasColumn_addColumn, Bool.or_eq_true, decide_eq_true_iff,
    hasColumn_markKey, hasColumn_named]
  simp

end Table

namespace Catalog

theorem hasColumn_stagingTable (s : Step) (column : String) :
    (stagingTable s).hasColumn column = true ↔
      column = idColumn ∨ column ∈ s.fields.values ∨
      column ∈ s.lookups.toList.map (fun e => e.2.keyField.getD e.1) ∨
      (s.recordType.isSome = true ∧ column = recordTypeColumn) := by
  unfold stagingTable
  dsimp only
  split
  · next h =>
    rw [Table.hasColumn_addColumn, Bool.or_eq_true, decide_eq_true_iff,
      Table.hasColumn_addColumns, Table.hasColumn_addColumns, Table.hasColumn_markKey,
      Table.hasColumn_named]
    simp only [h, Bool.false_eq_true, false_or, true_and, or_assoc]
  · next h =>
    rw [Table.hasColumn_addColumns, Table.hasColumn_addColumns, Table.hasColumn_markKey,
      Table.hasColumn_named]
    simp only [h, Bool.false_eq_true, false_or, false_and, or_false, or_assoc]

theorem primaryKey_addColumns (t : Table) (cs : List String) :
    (t.addColumns cs).primaryKey = t.primaryKey := by
  induction cs generalizing t with
  | nil => rfl
  | cons c cs ih => rw [Table.addColumns_cons, ih, Table.primaryKey_addColumn]

theorem primaryKey_stagingTable (s : Step) : (stagingTable s).primaryKey = some idColumn := by
  unfold stagingTable
  dsimp only
  split
  · rw [Table.primaryKey_addColumn, primaryKey_addColumns, primaryKey_addColumns,
      Table.primaryKey_markKey]
  · rw [primaryKey_addColumns, primaryKey_addColumns, Table.primaryKey_markKey]

theorem rowId_stagingTable (s : Step) : (stagingTable s).rowId = idColumn := by
  rw [Table.rowId, primaryKey_stagingTable]
  rfl

/-! ## finding a table -/

/-- a table is found under its own name, and under no other one -/
theorem table_eq_ok_iff {c : Catalog} {name : String} {t : Table} :
    c.table name = .ok t ↔ t ∈ c.tables.toList ∧ t.name = name := by
  constructor
  · intro h
    have hn : t.name = name := name_of_table h
    subst hn
    unfold table at h
    split at h
    · next u hu =>
      cases h
      exact ⟨Roster.mem_of_find? hu, rfl⟩
    · cases h
  · rintro ⟨hm, rfl⟩
    rw [table, Roster.find?_of_mem hm]

theorem table_eq_error_iff {c : Catalog} {name : String} {e : CatalogMiss} :
    c.table name = .error e ↔ name ∉ c.tables.toList.map Table.name ∧ e = { table := name } := by
  constructor
  · intro h
    unfold table at h
    split at h
    · cases h
    · next hn =>
      cases h
      exact ⟨(Roster.find?_eq_none_iff _ _).mp hn, rfl⟩
  · rintro ⟨hn, rfl⟩
    rw [table, (Roster.find?_eq_none_iff c.tables name).mpr hn]

/-! ## the last table counts -/

theorem tables_addAll (c : Catalog) (ts : List Table) :
    (c.addAll ts).tables = c.tables.putAll ts := by
  induction ts generalizing c with
  | nil => rfl
  | cons t ts ih => rw [addAll_cons, ih, Roster.putAll_cons]; rfl

theorem table_addAll (c : Catalog) (ts : List Table) (name : String) :
    (c.addAll ts).table name =
      match ts.reverse.find? (fun t => t.name = name) with
      | some t => .ok t
      | none => c.table name := by
  unfold table
  rw [tables_addAll, Roster.find?_putAll]
  cases ts.reverse.find? (fun t => t.name = name) <;> rfl

theorem table_addAll_of_mem {c : Catalog} {ts : List Table} {t : Table} (ht : t ∈ ts)
    (hu : ∀ u ∈ ts, u.name = t.name → u = t) : (c.addAll ts).table t.name = .ok t := by
  rw [table_addAll]
  cases hf : ts.reverse.find? (fun u => u.name = t.name) with
  | none =>
    have := List.find?_eq_none.mp hf t (List.mem_reverse.mpr ht)
    simp at this
  | some u =>
    have hn : u.name = t.name := by simpa using List.find?_some hf
    have hm : u ∈ ts := List.mem_reverse.mp (List.mem_of_find?_eq_some hf)
    show Except.ok u = .ok t
    rw [hu u hm hn]

/-! ## the tables of steps -/

def derivedTable (ending name : String) : Table :=
  if ending = "_sf_ids" then .idMapping name else .recordTypeMapping (name ++ ending)

theorem name_derivedTable {p : String} (a : String) : (derivedTable p a).name = a ++ p := by
  unfold derivedTable
  split
  · next h => rw [h]; rfl
  · rfl

def derivedTables (s : Step) : List Table :=
  .idMapping s.tableName ::
    if s.hasField recordTypeField then
      [.recordTypeMapping s.sourceRecordTypes, .recordTypeMapping s.destinationRecordTypes]
    else []

theorem tablesOf_eq (s : Step) : tablesOf s = stagingTable s :: derivedTables s := rfl

theorem mem_derivedTables_iff {s : Step} {t : Table} :
    t ∈ derivedTables s ↔ t = .idMapping s.tableName ∨ s.hasField recordTypeField = true ∧
      ∃ name ∈ [s.sourceRecordTypes, s.destinationRecordTypes], t = .recordTypeMapping name := by
  unfold derivedTables
  split
  · next h => simp [h]
  · next h => simp [h]

theorem mem_derivedTables {s : Step} {t : Table} (h : t ∈ derivedTables s) :
    ∃ p ∈ derivedEndings, ∃ a ∈ [s.tableName, s.object], t = derivedTable p a := by
  rcases mem_derivedTables_iff.mp h with h | ⟨_, name, hn, h⟩
  · exact ⟨"_sf_ids", by decide, s.tableName, by simp, h⟩
  · rcases List.mem_cons.mp hn with rfl | hn
    · exact ⟨"_rt_mapping", by decide, s.object, by simp, h⟩
    · obtain rfl := List.mem_singleton.mp hn
      exact ⟨"_rt_target_mapping", by decide, s.object, by simp, h⟩

theorem mem_tablesOf {s : Step} {t : Table} (h : t ∈ tablesOf s) :
    t = stagingTable s ∨
      ∃ p ∈ derivedEndings, ∃ a ∈ [s.tableName, s.object], t = derivedTable p a := by
  rw [tablesOf_eq, List.mem_cons] at h
  exact h.imp_right mem_derivedTables

/-- no staging table of the steps bears a name that is derived for one of them -/
def NoneDerived (steps : List Step) : Prop :=
  ∀ s ∈ steps, ∀ t ∈ steps, ∀ a ∈ [t.tableName, t.object], ∀ p ∈ derivedEndings,
    s.tableName ≠ a ++ p

theorem NoneDerived.eq_of_name_eq {steps : List Step} (h : NoneDerived steps) {s : Step}
    (hs : s ∈ steps) {t u : Table} (ht : t ∈ derivedTables s) (hu : u ∈ steps.flatMap tablesOf)
    (hn : u.name = t.name) : u = t := by
  obtain ⟨p, hp, a, ha, rfl⟩ := mem_derivedTables ht
  obtain ⟨r, hr, hu⟩ := List.mem_flatMap.mp hu
  rw [name_derivedTable] at hn
  rcases mem_tablesOf hu with rfl | ⟨q, hq, b, hb, rfl⟩
  · rw [name_stagingTable] at hn
    exact absurd hn (h r hr s hs a ha p hp)
  · rw [name_derivedTable] at hn
    obtain ⟨rfl, rfl⟩ := derived_inj hq hp hn
    rfl

/-- no two staging tables share a name, and none bears a derived one -/
structure NamesApart (steps : List Step) : Prop where
  distinct : (steps.map Step.tableName).Nodup
  noneDerived : NoneDerived steps

theorem NamesApart.eq_of_name_eq {steps : List Step} (h : NamesApart steps) {t u : Table}
    (ht : t ∈ steps.flatMap tablesOf) (hu : u ∈ steps.flatMap tablesOf) (hn : t.name = u.name) :
    t = u := by
  obtain ⟨s, hs, hst⟩ := List.mem_flatMap.mp ht
  obtain ⟨r, hr, hru⟩ := List.mem_flatMap.mp hu
  rw [tablesOf_eq, List.mem_cons] at hst hru
  rcases hst with rfl | hst
  · rcases hru with rfl | hru
    · rw [name_stagingTable, name_stagingTable] at hn
      rw [List.inj_on_of_nodup_map h.distinct hs hr hn]
    · exact h.noneDerived.eq_of_name_eq hr hru ht hn
  · exact (h.noneDerived.eq_of_name_eq hs hst hu hn.symm).symm

theorem table_forLoad {steps : List Step} (h : NamesApart steps) {s : Step} (hs : s ∈ steps)
    {t : Table} (ht : t ∈ tablesOf s) : (forLoad steps).table t.name = .ok t := by
  have hm : t ∈ steps.flatMap tablesOf := List.mem_flatMap.mpr ⟨s, hs, ht⟩
  exact table_addAll_of_mem hm fun u hu hn => h.eq_of_name_eq hu hm hn

end Catalog

end StagedLoad
