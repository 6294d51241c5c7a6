import StagedLoad.Proofs.LastItem
import StagedLoad.Proofs.Staging.Registration

/-!
# The tables that stay

A table that is registered under a name replaces the one that bore it.  So a catalog derived from
steps holds the last table of every name (`mem_tables_forLoad`).  A staging table stays unless its
name is taken again, by a derived table of its own step or by any table of a step behind it
(`lastOf_stagingTable`).
-/

namespace StagedLoad

/-- the names of the tables that go with the staging table of a step -/
def Step.derivedNames (s : Step) : List String :=
  idTableName s.tableName ::
    if s.hasField recordTypeField then [s.sourceRecordTypes, s.destinationRecordTypes] else []

namespace Catalog

theorem names_derivedTables (s : Step) : (derivedTables s).map Table.name = s.derivedNames := by
  unfold derivedTables Step.derivedNames
  split <;> rfl

theorem names_tablesOf (s : Step) :
    (tablesOf s).map Table.name = s.tableName :: s.derivedNames := by
  rw [tablesOf_eq, List.map_cons, names_derivedTables, name_stagingTable]

/-! ## the last table of a name -/

theorem tables_forLoad (steps : List Step) :
    (forLoad steps).tables = Roster.ofList (steps.flatMap tablesOf) := tables_addAll {} _

theorem mem_tables_forLoad {steps : List Step} {t : Table} :
    t ∈ (forLoad steps).tables.toList ↔ LastOf Table.name (steps.flatMap tablesOf) t := by
  rw [tables_forLoad, Roster.mem_ofList_iff_lastOf]

theorem table_forLoad_eq_ok {steps : List Step} {name : String} {t : Table} :
    (forLoad steps).table name = .ok t ↔
      t.name = name ∧ LastOf Table.name (steps.flatMap tablesOf) t := by
  rw [table_eq_ok_iff, mem_tables_forLoad, and_comm]

theorem exists_table_forLoad {steps : List Step} {t : Table} (h : t ∈ steps.flatMap tablesOf) :
    ∃ u, (forLoad steps).table t.name = .ok u := by
  obtain ⟨u, hu, hn⟩ : ∃ u, LastOf Table.name (steps.flatMap tablesOf) u ∧ u.name = t.name :=
    exists_lastOf h
  exact ⟨u, table_forLoad_eq_ok.mpr ⟨hn, hu⟩⟩

/-! ## staging tables -/

theorem lastOf_tables {steps : List Step} {t : Table} :
    LastOf Table.name (steps.flatMap tablesOf) t ↔
      ∃ before s behind, steps = before ++ s :: behind ∧ LastOf Table.name (tablesOf s) t ∧
        ∀ r ∈ behind, t.name ∉ r.tableName :: r.derivedNames := by
  rw [lastOf_flatMap]
  refine exists_congr fun before => exists_congr fun s => exists_congr fun behind => ?_
  refine and_congr_right fun _ => and_congr_right fun _ => forall₂_congr fun r _ => ?_
  rw [← names_tablesOf, List.mem_map]
  exact ⟨fun h ⟨u, hu, he⟩ => h u hu he, fun h u hu he => h ⟨u, hu, he⟩⟩

theorem lastOf_stagingTable {before behind : List Step} {s : Step}
    (hs : s.tableName ∉ s.derivedNames)
    (hb : ∀ r ∈ behind, s.tableName ∉ r.tableName :: r.derivedNames) :
    LastOf Table.name ((before ++ s :: behind).flatMap tablesOf) (stagingTable s) := by
  refine lastOf_tables.mpr ⟨before, s, behind, rfl, ?_, ?_⟩
  · -- the staging table is the first of its step, so only a derived one can follow it there
    rw [tablesOf_eq, lastOf_cons, name_stagingTable]
    refine Or.inr ⟨rfl, fun u hu he => hs ?_⟩
    rw [← names_derivedTables, ← he]
    exact List.mem_map_of_mem hu
  · rw [name_stagingTable]
    exact hb

end Catalog

end StagedLoad
