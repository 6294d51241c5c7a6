import StagedLoad.Proofs.Query.Scope
import StagedLoad.Proofs.Staging.Registration

/-!
# Columns in a load query

A plan binds a name to the table that it introduces under it.  When a catalog serves a step, its
load plan is composed and reads only columns that the tables bound to their qualifiers have
(`exists_loadPlan`).
-/

namespace StagedLoad

/-! ## what names are bound to -/

namespace Plan

def tables (p : Plan) : List TableRef := p.source :: p.joins.map Join.table

def expressions (p : Plan) : List Expr :=
  p.columns ++ p.joins.map Join.condition ++ p.filters ++ p.orderBy

/-- the plan binds the name to tables, and all of them have the column -/
structure Binds (p : Plan) (catalog : Catalog) (name column : String) : Prop where
  bound : ∃ r ∈ p.tables, r.name = name
  found : ∀ r ∈ p.tables, r.name = name →
    ∃ t, catalog.table r.table = .ok t ∧ t.hasColumn column = true

/-- every column that the plan reads is one of the table that its qualifier is bound to -/
def ColumnsIn (p : Plan) (catalog : Catalog) : Prop :=
  ∀ e ∈ p.expressions, e.Keeps (p.Binds catalog)

theorem names_eq (p : Plan) : p.names = p.tables.map TableRef.name := by
  rw [names, tables, List.map_cons, List.map_map]
  rfl

theorem binds_of_mem {p : Plan} {catalog : Catalog} (hn : p.names.Nodup) {r : TableRef}
    (hr : r ∈ p.tables) {t : Table} (ht : catalog.table r.table = .ok t) {column : String}
    (hc : t.hasColumn column = true) : p.Binds catalog r.name column := by
  refine ⟨⟨r, hr, rfl⟩, fun r' hr' he => ?_⟩
  rw [names_eq] at hn
  have : r' = r := List.inj_on_of_nodup_map hn hr' hr he
  rw [this]
  exact ⟨t, ht, hc⟩

end Plan

/-! ## catalogs that serve a step -/

/-- the catalog has what the load query of a step asks for, under the names it asks by -/
structure Catalog.Serves (catalog : Catalog) (s : Step) (model : Table) : Prop where
  staging : catalog.table model.name = .ok model
  rowId : model.hasColumn model.rowId = true
  direct : ∀ column ∈ Plan.directColumns s, model.hasColumn column = true
  keys : ∀ e ∈ s.insertLookups, ∃ key, e.2.keyFieldIn e.1 model = .ok key
  ids : ∀ e ∈ s.insertLookups, catalog.table (idTableName e.2.table) = .ok (.idMapping e.2.table)
  recordType : ∀ column, s.fields.get? recordTypeField = some column →
    model.hasColumn column = true ∧
    ∀ name ∈ [s.sourceRecordTypes, s.destinationRecordTypes],
      catalog.table name = .ok (.recordTypeMapping name)
  apart : ∀ name ∈ [s.sourceRecordTypes, s.destinationRecordTypes], model.name ≠ name

namespace Catalog.Serves
variable {catalog : Catalog} {s : Step} {model : Table} {settings : QuerySettings}
  {sites : List (Table × String)} {added : List Expr × List Join}

theorem exists_sites (h : catalog.Serves s model) :
    ∃ sites, Extender.sitesOf catalog model s.insertLookups = .ok sites := by
  refine exists_mapM_eq_ok fun e he => ?_
  obtain ⟨key, hk⟩ := h.keys e he
  exact ⟨(.idMapping e.2.table, key), Lookup.resolve_eq_ok.mpr ⟨h.ids e he, hk⟩⟩

theorem of_mem_sites (h : catalog.Serves s model)
    (hs : Extender.sitesOf catalog model s.insertLookups = .ok sites) {site : Table × String}
    (hm : site ∈ sites) :
    ∃ object, site.1 = .idMapping object ∧ catalog.table site.1.name = .ok site.1 ∧
      model.hasColumn site.2 = true := by
  obtain ⟨⟨name, l⟩, he, hr⟩ := exists_of_mem_right (mapM_eq_ok.mp hs) hm
  obtain ⟨ht, hk⟩ := Lookup.resolve_eq_ok.mp hr
  have hi : site.1 = .idMapping l.table := Except.ok.inj (ht.symm.trans (h.ids _ he))
  refine ⟨l.table, hi, ?_, Lookup.hasColumn_of_keyFieldIn hk⟩
  rw [hi]
  exact h.ids _ he

theorem exists_added (h : catalog.Serves s model) :
    ∃ added, Extender.recordTypeConversion s catalog model = .ok added := by
  cases hf : s.fields.get? recordTypeField with
  | none => exact ⟨_, Extender.recordTypeConversion_eq_ok.mpr (Or.inl ⟨hf, rfl⟩)⟩
  | some column =>
    obtain ⟨hc, ht⟩ := h.recordType column hf
    have hs := ht s.sourceRecordTypes (List.mem_cons_self ..)
    have hd := ht s.destinationRecordTypes (List.mem_cons_of_mem _ (List.mem_cons_self ..))
    exact ⟨_, Extender.recordTypeConversion_eq_ok.mpr
      (Or.inr ⟨column, hf, ⟨_, hs⟩, ⟨_, hd⟩, hc, rfl⟩)⟩

/-! ## the columns of a load plan -/

section
variable (h : catalog.Serves s model)
  (hs : Extender.sitesOf catalog model s.insertLookups = .ok sites)
  (ha : Extender.recordTypeConversion s catalog model = .ok added)
include h ha

theorem nodup_names : (s.planOf model settings sites added).names.Nodup :=
  Step.nodup_names_planOf ha (h.apart _ (List.mem_cons_self ..))
    (h.apart _ (List.mem_cons_of_mem _ (List.mem_cons_self ..)))

theorem binds_model {column : String} (hc : model.hasColumn column = true) :
    (s.planOf model settings sites added).Binds catalog model.name column :=
  Plan.binds_of_mem (r := .plain model.name) (h.nodup_names ha) (List.mem_cons_self ..)
    h.staging hc

theorem binds_join {j : Join} (hj : j ∈ (s.planOf model settings sites added).joins) {t : Table}
    (ht : catalog.table j.table.table = .ok t) {column : String}
    (hc : t.hasColumn column = true) :
    (s.planOf model settings sites added).Binds catalog j.table.name column :=
  Plan.binds_of_mem (h.nodup_names ha)
    (List.mem_cons_of_mem _ (List.mem_map_of_mem (f := Join.table) hj)) ht hc

include hs in
theorem keeps_conversion {x : Expr × Join}
    (hx : x ∈ Extender.converted model.name sites (Step.joinNames model sites.length)) :
    x.1.Keeps ((s.planOf model settings sites added).Binds catalog) ∧
      x.2.condition.Keeps ((s.planOf model settings sites added).Binds catalog) := by
  have hj : x.2 ∈ (s.planOf model settings sites added).joins :=
    List.mem_append_left _ (List.mem_map_of_mem (f := Prod.snd) hx)
  obtain ⟨site, hm, name, _, rfl⟩ := Extender.mem_converted hx
  obtain ⟨object, hi, ht, hk⟩ := h.of_mem_sites hs hm
  have hb : ∀ column, column = idColumn ∨ column = orgIdColumn →
      (s.planOf model settings sites added).Binds catalog name column := by
    intro column hc
    refine h.binds_join ha hj ht ?_
    rw [hi]
    exact (Table.hasColumn_idMapping object column).mpr hc
  refine ⟨Expr.keeps_column.mpr (hb _ (Or.inr rfl)), Expr.keeps_eq.mpr ⟨?_, ?_⟩⟩
  · exact Expr.keeps_column.mpr (hb _ (Or.inl rfl))
  · exact Expr.keeps_castText.mpr (Expr.keeps_column.mpr (h.binds_model ha hk))

theorem binds_recordTypes {column : String}
    (hj : added.2 = Extender.recordTypeJoins s.sourceRecordTypes s.destinationRecordTypes
      model.name column)
    {name : String} (hn : name ∈ [s.sourceRecordTypes, s.destinationRecordTypes])
    (ht : catalog.table name = .ok (.recordTypeMapping name)) {c : String}
    (hc : c = recordTypeIdColumn ∨ c = developerNameColumn) :
    (s.planOf model settings sites added).Binds catalog name c := by
  obtain ⟨j, hm, rfl, he⟩ : ∃ j ∈ added.2, j.table.name = name ∧ j.table.table = name := by
    rw [hj]
    rcases List.mem_cons.mp hn with rfl | hn
    · exact ⟨_, List.mem_cons_self .., rfl, rfl⟩
    · obtain rfl := List.mem_singleton.mp hn
      exact ⟨_, List.mem_cons_of_mem _ (List.mem_cons_self ..), rfl, rfl⟩
  rw [← he] at ht
  exact h.binds_join ha (List.mem_append_right _ hm) ht
    ((Table.hasColumn_recordTypeMapping _ c).mpr hc)

theorem keeps_added :
    (∀ e ∈ added.1, e.Keeps ((s.planOf model settings sites added).Binds catalog)) ∧
      ∀ j ∈ added.2, j.condition.Keeps ((s.planOf model settings sites added).Binds catalog) := by
  rcases Extender.recordTypeConversion_eq_ok.mp ha with ⟨_, he⟩ | ⟨column, hf, _, _, hc, he⟩
  · rw [he]
    exact ⟨List.forall_mem_nil _, List.forall_mem_nil _⟩
  · obtain ⟨_, ht⟩ := h.recordType column hf
    have hb : ∀ name ∈ [s.sourceRecordTypes, s.destinationRecordTypes], ∀ c,
        c = recordTypeIdColumn ∨ c = developerNameColumn →
          (s.planOf model settings sites added).Binds catalog name c :=
      fun name hn c hc => h.binds_recordTypes ha (congrArg Prod.snd he) hn (ht name hn) hc
    have hsource := hb s.sourceRecordTypes (List.mem_cons_self ..)
    have hdestination :=
      hb s.destinationRecordTypes (List.mem_cons_of_mem _ (List.mem_cons_self ..))
    refine ⟨fun e hm => ?_, fun j hm => ?_⟩
    · rw [he] at hm
      obtain rfl := List.mem_singleton.mp hm
      exact Expr.keeps_column.mpr (hdestination _ (Or.inl rfl))
    · rw [he] at hm
      rcases List.mem_cons.mp hm with rfl | hm
      · exact Expr.keeps_eq.mpr ⟨Expr.keeps_column.mpr (hsource _ (Or.inl rfl)),
          Expr.keeps_column.mpr (h.binds_model ha hc)⟩
      · obtain rfl := List.mem_singleton.mp hm
        exact Expr.keeps_eq.mpr ⟨Expr.keeps_column.mpr (hdestination _ (Or.inr rfl)),
          Expr.keeps_column.mpr (hsource _ (Or.inr rfl))⟩

theorem keeps_filters {e : Expr} (he : e ∈ (s.planOf model settings sites added).filters) :
    e.Keeps ((s.planOf model settings sites added).Binds catalog) := by
  rcases Step.mem_filters_planOf he with ⟨v, hc, rfl⟩ | ⟨sql, rfl⟩ | ⟨hc, rfl⟩
  · exact Expr.keeps_eq.mpr ⟨Expr.keeps_column.mpr (h.binds_model ha hc), Expr.keeps_text⟩
  · exact Expr.keeps_raw
  · exact Expr.keeps_isBusinessContact.mpr (h.binds_model ha hc)

include hs in
theorem columnsIn_planOf : (s.planOf model settings sites added).ColumnsIn catalog := by
  have hid : (Expr.column model.name model.rowId).Keeps
      ((s.planOf model settings sites added).Binds catalog) :=
    Expr.keeps_column.mpr (h.binds_model ha h.rowId)
  intro e he
  simp only [Plan.expressions, List.mem_append] at he
  rcases he with ((he | he) | he) | he
  · rcases List.mem_append.mp he with he | he
    · rcases List.mem_append.mp he with he | he
      · rcases List.mem_cons.mp he with rfl | he
        · exact hid
        · obtain ⟨column, hm, rfl⟩ := List.mem_map.mp he
          exact Expr.keeps_column.mpr (h.binds_model ha (h.direct column hm))
      · obtain ⟨x, hx, rfl⟩ := List.mem_map.mp he
        exact (h.keeps_conversion hs ha hx).1
    · exact (h.keeps_added ha).1 e he
  · obtain ⟨j, hj, rfl⟩ := List.mem_map.mp he
    rcases List.mem_append.mp hj with hj | hj
    · obtain ⟨x, hx, rfl⟩ := List.mem_map.mp hj
      exact (h.keeps_conversion hs ha hx).2
    · exact (h.keeps_added ha).2 j hj
  · exact h.keeps_filters ha he
  · obtain rfl := List.mem_singleton.mp he
    exact hid

end

/-- **When a catalog serves a step, its load plan is composed and reads only columns that are
there.** -/
theorem exists_loadPlan (h : catalog.Serves s model) (settings : QuerySettings) :
    ∃ plan, (s.loadPlan catalog model settings).outcome = .ok plan ∧ plan.ColumnsIn catalog := by
  obtain ⟨sites, hs⟩ := h.exists_sites
  obtain ⟨added, ha⟩ := h.exists_added
  exact ⟨_, Step.loadPlan_eq_ok.mpr ⟨h.direct, sites, hs, added, ha, rfl⟩,
    h.columnsIn_planOf hs ha⟩

end Catalog.Serves

end StagedLoad
