import StagedLoad.Proofs.Outcome
import StagedLoad.Query.Composition

/-!
# The layout of a load query

A load query is composed in stages, each of which may fail: the columns that need no conversion,
the lookups one after the other, the record type.  When none does, the plan is `Step.planOf`, laid
out in the open (`loadPlan_eq_ok`).  Person accounts never stop a composition
(`personAccountExtenders_eq`).
-/

namespace StagedLoad

/-! ## lookups -/

theorem Lookup.resolve_eq_ok {l : Lookup} {name : String} {catalog : Catalog} {model : Table}
    {site : Table × String} :
    l.resolve name catalog model = .ok site ↔
      catalog.table (idTableName l.table) = .ok site.1 ∧ l.keyFieldIn name model = .ok site.2 := by
  unfold Lookup.resolve
  cases catalog.table (idTableName l.table) with
  | error miss =>
    refine ⟨fun h => ?_, fun ⟨h, _⟩ => ?_⟩
    · cases h
    · cases h
  | ok t =>
    rw [map_eq_ok]
    refine ⟨fun ⟨key, hk, hs⟩ => ?_, fun ⟨ht, hk⟩ => ?_⟩
    · subst hs
      exact ⟨rfl, hk⟩
    · cases ht
      exact ⟨site.2, hk, rfl⟩

namespace Extender

/-- the conversions of lookups into tables of ids, each with the column of its values, under the
given names -/
def converted (model : String) (sites : List (Table × String)) (names : List String) :
    List (Expr × Join) :=
  (sites.zip names).map fun (site, name) => Lookup.conversion site.1.name name model site.2

def sitesOf (catalog : Catalog) (model : Table) (ls : List (String × Lookup)) :
    Except Problem (List (Table × String)) :=
  ls.mapM fun p => p.2.resolve p.1 catalog model

theorem sitesOf_cons (catalog : Catalog) (model : Table) (p : String × Lookup)
    (ls : List (String × Lookup)) :
    sitesOf catalog model (p :: ls) =
      (do
        let site ← p.2.resolve p.1 catalog model
        let sites ← sitesOf catalog model ls
        return site :: sites) := by
  rw [sitesOf, List.mapM_cons]
  rfl

theorem outcome_conversions (object : String) (catalog : Catalog) (model : Table)
    (names : Aliases) (ls : List (String × Lookup)) :
    (conversions object catalog model names ls).outcome =
      (sitesOf catalog model ls).map fun sites =>
        (converted model.name sites (names.take sites.length).1,
          (names.take sites.length).2) := by
  induction ls generalizing names with
  | nil => rfl
  | cons p ls ih =>
    obtain ⟨lookup, l⟩ := p
    rw [sitesOf_cons, conversions, Journal.outcome_bind, Journal.outcome_ofExcept]
    cases l.resolve lookup catalog model with
    | error p => rfl
    | ok site =>
      show (conversions object catalog model names.next.2 ls >>= fun p =>
        pure (Lookup.conversion site.1.name names.next.1 model.name site.2 :: p.1, p.2)).outcome = _
      rw [Journal.outcome_bind, ih]
      cases sitesOf catalog model ls <;> rfl

theorem outcome_lookupJoins (s : Step) (catalog : Catalog) (model : Table) (names : Aliases) :
    (lookupJoins s catalog model names).outcome =
      (sitesOf catalog model s.insertLookups).map fun sites =>
        (ofConversions (converted model.name sites (names.take sites.length).1),
          (names.take sites.length).2) := by
  rw [lookupJoins, Journal.outcome_bind, outcome_conversions]
  cases sitesOf catalog model s.insertLookups <;> rfl

/-! ## record types -/

theorem recordTypeTable_eq_ok {catalog : Catalog} {name : String} {t : Table} :
    recordTypeTable catalog name = .ok t ↔ catalog.table name = .ok t := by
  unfold recordTypeTable
  cases catalog.table name with
  | error miss =>
    refine ⟨fun h => ?_, fun h => ?_⟩
    · cases h
    · cases h
  | ok u => exact ⟨fun h => congrArg _ (Except.ok.inj h), fun h => congrArg _ (Except.ok.inj h)⟩

/-- what the conversion of the record type adds to a plan: nothing when the step has no record
type field, else a column and two joins with the tables of its object -/
theorem recordTypeConversion_eq_ok {s : Step} {catalog : Catalog} {model : Table}
    {added : List Expr × List Join} :
    recordTypeConversion s catalog model = .ok added ↔
      (s.fields.get? recordTypeField = none ∧ added = ([], [])) ∨
      ∃ column, s.fields.get? recordTypeField = some column ∧
        (∃ t, catalog.table s.sourceRecordTypes = .ok t) ∧
        (∃ t, catalog.table s.destinationRecordTypes = .ok t) ∧
        model.hasColumn column = true ∧
        added = ([.column s.destinationRecordTypes recordTypeIdColumn],
          recordTypeJoins s.sourceRecordTypes s.destinationRecordTypes model.name column) := by
  unfold recordTypeConversion
  cases s.fields.get? recordTypeField with
  | none =>
    refine ⟨fun h => Or.inl ⟨rfl, (Except.ok.inj h).symm⟩, fun h => ?_⟩
    rcases h with ⟨_, h⟩ | ⟨column, hc, _⟩
    · rw [h]
    · cases hc
  | some column =>
    simp only [reduceCtorEq, false_and, false_or, Option.some.injEq, exists_eq_left']
    rw [bind_eq_ok]
    refine ⟨fun ⟨source, hs, h⟩ => ?_, fun ⟨⟨source, hs⟩, ⟨destination, hd⟩, hc, h⟩ => ?_⟩
    · obtain ⟨destination, hd, h⟩ := bind_eq_ok.mp h
      rw [recordTypeTable_eq_ok] at hs hd
      split at h
      · next hc =>
        cases h
        rw [Catalog.name_of_table hs, Catalog.name_of_table hd]
        exact ⟨⟨source, hs⟩, ⟨destination, hd⟩, hc, rfl⟩
      · cases h
    · refine ⟨source, recordTypeTable_eq_ok.mpr hs, bind_eq_ok.mpr
        ⟨destination, recordTypeTable_eq_ok.mpr hd, ?_⟩⟩
      rw [if_pos hc, Catalog.name_of_table hs, Catalog.name_of_table hd, h]
      rfl

end Extender

/-! ## plans -/

namespace Step

/-- a field is read as it is: it is none of those that are never loaded from a row, and no lookup -/
def ReadsPlainly (s : Step) (field : String) : Prop :=
  field ∉ ["Id", "RecordTypeId", "RecordType"] ∧ field ∉ s.lookups.keys

instance (s : Step) (field : String) : Decidable (s.ReadsPlainly field) :=
  inferInstanceAs (Decidable (_ ∧ _))

def plainColumns (s : Step) : List String :=
  (s.fields.toList.filter fun (name, _) => s.ReadsPlainly name).map Prod.snd

theorem directColumns_eq (s : Step) : Plan.directColumns s = s.plainColumns := by
  unfold Plan.directColumns plainColumns
  congr 1
  apply List.filter_congr
  rintro ⟨name, column⟩ _
  rw [Bool.eq_iff_iff, decide_eq_true_iff]
  simp [ReadsPlainly, Plan.unreadFields, recordTypeField, Roster.hasKey]

end Step

namespace Plan

def baseOf (s : Step) (model : Table) : Plan where
  source := .plain model.name
  columns := .column model.name model.rowId :: (directColumns s).map (Expr.column model.name)
  orderBy := [.column model.name model.rowId]

theorem base_eq_ok {s : Step} {model : Table} {p : Plan} :
    base s model = .ok p ↔
      (∀ column ∈ directColumns s, model.hasColumn column = true) ∧ p = baseOf s model := by
  unfold base
  cases hf : (directColumns s).find? fun column => !model.hasColumn column with
  | some column =>
    refine ⟨fun h => ?_, fun ⟨h, _⟩ => ?_⟩
    · cases h
    · have hm : model.hasColumn column = true := h column (List.mem_of_find?_eq_some hf)
      have hc := List.find?_some hf
      rw [hm] at hc
      cases hc
  | none =>
    exact ⟨fun h => ⟨by simpa using hf, (Except.ok.inj h).symm⟩, fun ⟨_, h⟩ => congrArg _ h.symm⟩

end Plan

namespace Step

theorem personAccountExtenders_eq (s : Step) (model : Table) (settings : QuerySettings) :
    s.personAccountExtenders model settings = .ok
      (if s.excludesPersonAccounts model settings then
        [{ name := "person_accounts",
           filters := some [Extender.isBusinessContact model.name] }]
      else []) := by
  unfold personAccountExtenders
  split
  · next h =>
    have ho : s.object = Extender.contactObject := by
      simp only [excludesPersonAccounts, Bool.and_eq_true, beq_iff_eq] at h
      exact h.1.1
    rw [Extender.businessContacts, if_pos ho]
    rfl
  · rfl

def joinNames (model : Table) (n : Nat) : List String :=
  ((({} : Aliases).reserve model.name).take n).1

/-- the load plan of a step, given where its lookups are converted and what the conversion of its
record type adds -/
def planOf (s : Step) (model : Table) (settings : QuerySettings) (sites : List (Table × String))
    (added : List Expr × List Join) : Plan :=
  let lookups := Extender.converted model.name sites (joinNames model sites.length)
  { source := .plain model.name
    columns := .column model.name model.rowId ::
      (Plan.directColumns s).map (Expr.column model.name) ++ lookups.map Prod.fst ++ added.1
    joins := lookups.map Prod.snd ++ added.2
    filters := Extender.recordTypeFilters s model ++ s.filters.map Expr.raw ++
      if s.excludesPersonAccounts model settings then [Extender.isBusinessContact model.name]
      else []
    orderBy := [.column model.name model.rowId] }

theorem extended_eq_planOf (s : Step) (model : Table) (settings : QuerySettings)
    (sites : List (Table × String)) (added : List Expr × List Join) :
    (Plan.baseOf s model).extended
      ([Extender.ofConversions (Extender.converted model.name sites (joinNames model sites.length)),
        { name := "record_types"
          columns := Extender.part added.1
          joins := Extender.part added.2
          filters := Extender.part (Extender.recordTypeFilters s model) },
        Extender.rowFilters s] ++
        if s.excludesPersonAccounts model settings then
          [{ name := "person_accounts",
             filters := some [Extender.isBusinessContact model.name] }]
        else []) = s.planOf model settings sites added := by
  unfold planOf Plan.baseOf Plan.extended Plan.addJoins Plan.addColumns Plan.addFilters
  split <;> simp [Extender.ofConversions, Extender.rowFilters, Extender.getD_part]

theorem outcome_loadPlan (s : Step) (catalog : Catalog) (model : Table)
    (settings : QuerySettings) :
    (s.loadPlan catalog model settings).outcome =
      (do
        let _ ← Plan.base s model
        let sites ← Extender.sitesOf catalog model s.insertLookups
        let added ← Extender.recordTypeConversion s catalog model
        return s.planOf model settings sites added) := by
  rw [loadPlan, Journal.outcome_bind, Journal.outcome_ofExcept]
  cases hb : Plan.base s model with
  | error p => rfl
  | ok base =>
    obtain ⟨_, rfl⟩ := Plan.base_eq_ok.mp hb
    rw [ok_bind, ok_bind, Journal.outcome_bind, Extender.outcome_lookupJoins]
    cases Extender.sitesOf catalog model s.insertLookups with
    | error p => rfl
    | ok sites =>
      rw [Except.map, ok_bind, ok_bind, Journal.outcome_bind, Journal.outcome_ofExcept,
        Extender.recordTypes]
      cases Extender.recordTypeConversion s catalog model with
      | error p => rfl
      | ok added =>
        rw [ok_bind, ok_bind]
        show ((Journal.ofExcept (s.personAccountExtenders model settings)) >>= _).outcome = _
        rw [Journal.outcome_bind, Journal.outcome_ofExcept, personAccountExtenders_eq, ok_bind]
        rw [Journal.outcome_bind, Plan.outcome_extend, ok_bind]
        exact congrArg Except.ok (extended_eq_planOf s model settings sites added)

/-- **A load plan is composed exactly when its columns are there, its lookups and its record type
can be converted, and then it is laid out by `planOf`.** -/
theorem loadPlan_eq_ok {s : Step} {catalog : Catalog} {model : Table} {settings : QuerySettings}
    {plan : Plan} :
    (s.loadPlan catalog model settings).outcome = .ok plan ↔
      (∀ column ∈ Plan.directColumns s, model.hasColumn column = true) ∧
      ∃ sites, Extender.sitesOf catalog model s.insertLookups = .ok sites ∧
      ∃ added, Extender.recordTypeConversion s catalog model = .ok added ∧
        plan = s.planOf model settings sites added := by
  rw [outcome_loadPlan, bind_eq_ok]
  refine ⟨fun ⟨base, hb, h⟩ => ?_, fun ⟨hc, sites, hs, added, ha, hp⟩ => ?_⟩
  · obtain ⟨sites, hs, h⟩ := bind_eq_ok.mp h
    obtain ⟨added, ha, h⟩ := bind_eq_ok.mp h
    exact ⟨(Plan.base_eq_ok.mp hb).1, sites, hs, added, ha, (Except.ok.inj h).symm⟩
  · have h : Except.ok (s.planOf model settings sites added) = (.ok plan : Except Problem Plan) :=
      congrArg Except.ok hp.symm
    exact ⟨_, Plan.base_eq_ok.mpr ⟨hc, rfl⟩,
      bind_eq_ok.mpr ⟨sites, hs, bind_eq_ok.mpr ⟨added, ha, h⟩⟩⟩

end Step

end StagedLoad
