import StagedLoad.Proofs.Staging.Supply

/-!
# Catalogs that a database can create

A catalog holds one table of each name, and a table one column of each name, but a database such
as SQLite does not tell upper from lower case.  A catalog that is derived from steps can be
created when the names of its tables differ in more than case, and so do the columns that each
step with a table of its own reads from it (`creatable_iff`).
-/

namespace StagedLoad

/-! ## names without case -/

def folded (name : String) : String := String.ofList (name.toList.map Char.toLower)

/-- names that differ at all differ in more than case -/
def FoldedApart (names : List String) : Prop :=
  ∀ a ∈ names, ∀ b ∈ names, folded a = folded b → a = b

instance (names : List String) : Decidable (FoldedApart names) :=
  inferInstanceAs (Decidable (∀ a ∈ names, ∀ b ∈ names, folded a = folded b → a = b))

theorem FoldedApart.mono {as bs : List String} (h : FoldedApart bs) (hs : as ⊆ bs) :
    FoldedApart as :=
  fun a ha b hb => h a (hs ha) b (hs hb)

theorem foldedApart_congr {as bs : List String} (h : ∀ a, a ∈ as ↔ a ∈ bs) :
    FoldedApart as ↔ FoldedApart bs :=
  ⟨fun ha => ha.mono fun a hm => (h a).mpr hm, fun hb => hb.mono fun a hm => (h a).mp hm⟩

theorem nodup_map_folded_iff {names : List String} (h : names.Nodup) :
    (names.map folded).Nodup ↔ FoldedApart names :=
  List.nodup_map_iff_inj_on h

theorem folded_append (a b : String) : folded (a ++ b) = folded a ++ folded b := by
  rw [folded, String.toList_append, List.map_append, String.ofList_append]
  rfl

theorem folded_of_mem_derivedEndings : ∀ p ∈ derivedEndings, folded p = p := by decide

theorem derived_inj_folded {p q : String} (hp : p ∈ derivedEndings) (hq : q ∈ derivedEndings)
    {a b : String} (h : folded (a ++ p) = folded (b ++ q)) : p = q ∧ folded a = folded b := by
  rw [folded_append, folded_append, folded_of_mem_derivedEndings p hp,
    folded_of_mem_derivedEndings q hq] at h
  exact derived_inj hp hq h

namespace Catalog

/-- no two tables, and no two columns of a table, have names that differ in case only -/
structure Creatable (c : Catalog) : Prop where
  tables : (c.tables.toList.map fun t => folded t.name).Nodup
  columns : ∀ t ∈ c.tables.toList, (t.columns.toList.map folded).Nodup

theorem creatable_def (c : Catalog) :
    ((c.tables.toList.map fun t => folded t.name).Nodup ∧
      ∀ t ∈ c.tables.toList, (t.columns.toList.map folded).Nodup) ↔ c.Creatable :=
  ⟨fun h => ⟨h.1, h.2⟩, fun h => ⟨h.tables, h.columns⟩⟩

instance (c : Catalog) : Decidable c.Creatable := decidable_of_iff _ (creatable_def c)

/-! ## derived catalogs -/

section
variable {steps : List Step}

theorem mem_keys_forLoad {name : String} :
    name ∈ (forLoad steps).tables.keys ↔
      name ∈ steps.flatMap fun s => s.tableName :: s.derivedNames := by
  rw [tables_forLoad, Roster.mem_keys_ofList, List.map_flatMap]
  simp only [names_tablesOf]

theorem nodup_folded_tables_iff :
    ((forLoad steps).tables.toList.map fun t => folded t.name).Nodup ↔
      FoldedApart (steps.flatMap fun s => s.tableName :: s.derivedNames) := by
  have hk : ((forLoad steps).tables.toList.map fun t => folded t.name) =
      (forLoad steps).tables.keys.map folded := by
    rw [Roster.keys, List.map_map]
    rfl
  rw [hk, nodup_map_folded_iff (Roster.nodup_keys _)]
  exact foldedApart_congr fun _ => mem_keys_forLoad

theorem nodup_folded_columns_stagingTable (s : Step) :
    ((stagingTable s).columns.toList.map folded).Nodup ↔
      FoldedApart (idColumn :: s.stagingColumns) := by
  rw [nodup_map_folded_iff (Table.nodup_columns _)]
  refine foldedApart_congr fun column => ?_
  rw [← Table.hasColumn_iff, hasColumn_stagingTable_iff]

theorem nodup_folded_columns_derived {s : Step} {t : Table} (h : t ∈ derivedTables s) :
    (t.columns.toList.map folded).Nodup := by
  rcases mem_derivedTables_iff.mp h with rfl | ⟨_, name, _, rfl⟩
  · show (["id", "sf_id"].map folded).Nodup
    decide
  · show (["record_type_id", "developer_name"].map folded).Nodup
    decide

/-- a catalog that is derived from steps can be created exactly when its tables have names that
differ in more than case, and so do the columns of every step whose staging table stays -/
theorem creatable_iff :
    (forLoad steps).Creatable ↔
      FoldedApart (steps.flatMap fun s => s.tableName :: s.derivedNames) ∧
      ∀ before s behind, steps = before ++ s :: behind → s.tableName ∉ s.derivedNames →
        (∀ r ∈ behind, s.tableName ∉ r.tableName :: r.derivedNames) →
        FoldedApart (idColumn :: s.stagingColumns) := by
  refine ⟨fun h => ⟨nodup_folded_tables_iff.mp h.tables, ?_⟩, fun ⟨hn, hc⟩ => ⟨?_, fun t ht => ?_⟩⟩
  · rintro before s behind rfl hs hb
    have hl : stagingTable s ∈ (forLoad (before ++ s :: behind)).tables.toList :=
      mem_tables_forLoad.mpr (lastOf_stagingTable hs hb)
    exact (nodup_folded_columns_stagingTable s).mp (h.columns _ hl)
  · exact nodup_folded_tables_iff.mpr hn
  · obtain ⟨before, s, behind, he, hl, hb⟩ := lastOf_tables.mp (mem_tables_forLoad.mp ht)
    rw [tablesOf_eq, lastOf_cons] at hl
    rcases hl with hl | ⟨rfl, hs⟩
    · exact nodup_folded_columns_derived hl.mem
    · rw [name_stagingTable] at hb hs
      refine (nodup_folded_columns_stagingTable s).mpr (hc before s behind he (fun hm => ?_) hb)
      rw [← names_derivedTables] at hm
      obtain ⟨u, hu, hn⟩ := List.mem_map.mp hm
      exact hs u hu hn

end

end Catalog

end StagedLoad
