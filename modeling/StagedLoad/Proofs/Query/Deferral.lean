import StagedLoad.Proofs.Outcome
import StagedLoad.Query.Composition

/-!
# Deferred lookups leave no trace

A lookup that is converted behind all inserts has no part in the query that reads the rows to
insert.  The composition of a load plan looks at a step in few places (`Step.SeenAlike`), and it
asks the catalog for few tables (`Step.tablesRead`); none of them shows a deferred lookup or the
field that it feeds.  So a step and the same step without its deferred lookups have one load plan,
or one problem, and the same notices on the way (`loadPlan_withoutDeferred`).
-/

namespace StagedLoad

/-! ## rosters without some of their items -/

namespace Roster
variable {α κ : Type} {key : α → κ}

def filter (p : α → Bool) (r : Roster key) : Roster key :=
  ⟨r.toList.filter p, r.distinct.sublist (List.filter_sublist.map key)⟩

variable [DecidableEq κ]

theorem find?_filter_of_pos {p : α → Bool} {k : κ} (hp : ∀ a, key a = k → p a = true)
    (r : Roster key) : (r.filter p).find? k = r.find? k := by
  show (r.toList.filter p).find? (fun a => key a = k) = r.toList.find? fun a => key a = k
  rw [List.find?_filter]
  congr 1
  funext a
  by_cases h : key a = k
  · simp [h, hp a h]
  · simp [h]

end Roster

/-! ## what a composition looks at -/

namespace Step

/-- the two steps are alike in what the composition of a load plan looks at -/
structure SeenAlike (s t : Step) : Prop where
  object : s.object = t.object
  direct : Plan.directColumns s = Plan.directColumns t
  lookups : s.insertLookups = t.insertLookups
  recordTypeField : s.fields.get? recordTypeField = t.fields.get? recordTypeField
  recordType : s.recordType = t.recordType
  filters : s.filters = t.filters

def tablesRead (s : Step) : List String :=
  (s.insertLookups.map fun p => idTableName p.2.table) ++
    if (s.fields.get? StagedLoad.recordTypeField).isSome then
      [s.sourceRecordTypes, s.destinationRecordTypes]
    else []

/-- the catalogs are alike in the tables that a step asks for -/
def ReadsAlike (s : Step) (catalog catalog' : Catalog) : Prop :=
  ∀ name ∈ s.tablesRead, catalog.table name = catalog'.table name

end Step

namespace Extender
variable {s t : Step} {catalog catalog' : Catalog} {model : Table}

theorem resolve_congr {l : Lookup} (h : catalog.table (idTableName l.table) =
    catalog'.table (idTableName l.table)) (name : String) (model : Table) :
    l.resolve name catalog model = l.resolve name catalog' model := by
  rw [Lookup.resolve, Lookup.resolve, h]

theorem conversions_congr (object : String) (model : Table) (names : Aliases)
    {ls : List (String × Lookup)}
    (h : ∀ p ∈ ls, catalog.table (idTableName p.2.table) = catalog'.table (idTableName p.2.table)) :
    conversions object catalog model names ls = conversions object catalog' model names ls := by
  induction ls generalizing names with
  | nil => rfl
  | cons p ls ih =>
    obtain ⟨lookup, l⟩ := p
    rw [List.forall_mem_cons] at h
    have hr : l.resolve lookup catalog model = l.resolve lookup catalog' model :=
      resolve_congr h.1 lookup model
    rw [conversions, conversions, hr]
    congr 1
    funext site
    have hi : conversions object catalog model names.next.2 ls =
        conversions object catalog' model names.next.2 ls := ih names.next.2 h.2
    dsimp only
    rw [hi]

theorem lookupJoins_congr (ha : s.SeenAlike t) (hc : s.ReadsAlike catalog catalog')
    (names : Aliases) :
    lookupJoins s catalog model names = lookupJoins t catalog' model names := by
  have hl : ∀ p ∈ s.insertLookups,
      catalog.table (idTableName p.2.table) = catalog'.table (idTableName p.2.table) := by
    intro p hp
    have hm : idTableName p.2.table ∈ s.insertLookups.map fun p => idTableName p.2.table :=
      List.mem_map_of_mem (f := fun p : String × Lookup => idTableName p.2.table) hp
    exact hc _ (List.mem_append_left _ hm)
  rw [lookupJoins, lookupJoins, ← ha.object, ← ha.lookups,
    conversions_congr s.object model names hl]

theorem recordTypeTable_congr {name : String} (h : catalog.table name = catalog'.table name) :
    recordTypeTable catalog name = recordTypeTable catalog' name := by
  rw [recordTypeTable, recordTypeTable, h]

theorem recordTypeConversion_congr (ha : s.SeenAlike t) (hc : s.ReadsAlike catalog catalog') :
    recordTypeConversion s catalog model = recordTypeConversion t catalog' model := by
  have hs : t.sourceRecordTypes = s.sourceRecordTypes := by
    rw [Step.sourceRecordTypes, Step.sourceRecordTypes, ha.object]
  have hd : t.destinationRecordTypes = s.destinationRecordTypes := by
    rw [Step.destinationRecordTypes, Step.destinationRecordTypes, ha.object]
  unfold recordTypeConversion
  rw [← ha.recordTypeField, hs, hd]
  cases hf : s.fields.get? recordTypeField with
  | none => rfl
  | some column =>
    have hm : s.tablesRead = (s.insertLookups.map fun p => idTableName p.2.table) ++
        [s.sourceRecordTypes, s.destinationRecordTypes] := by
      simp [Step.tablesRead, hf]
    have hsource : recordTypeTable catalog s.sourceRecordTypes =
        recordTypeTable catalog' s.sourceRecordTypes :=
      recordTypeTable_congr (hc _ (by simp [hm]))
    have hdestination : recordTypeTable catalog s.destinationRecordTypes =
        recordTypeTable catalog' s.destinationRecordTypes :=
      recordTypeTable_congr (hc _ (by simp [hm]))
    dsimp only
    rw [hsource, hdestination]

theorem recordTypes_congr (ha : s.SeenAlike t) (hc : s.ReadsAlike catalog catalog') :
    recordTypes s catalog model = recordTypes t catalog' model := by
  have hf : recordTypeFilters s model = recordTypeFilters t model := by
    rw [recordTypeFilters, recordTypeFilters, ha.recordType]
  rw [recordTypes, recordTypes, recordTypeConversion_congr ha hc, hf]

end Extender

namespace Step
variable {s t : Step} {catalog catalog' : Catalog}

/-- **A load plan is composed of what is seen of its step and of the tables that it asks for.** -/
theorem loadPlan_congr (ha : s.SeenAlike t) (hc : s.ReadsAlike catalog catalog') (model : Table)
    (settings : QuerySettings) :
    s.loadPlan catalog model settings = t.loadPlan catalog' model settings := by
  have hb : Plan.base s model = Plan.base t model := by
    rw [Plan.base, Plan.base, ha.direct]
  have hf : Extender.rowFilters s = Extender.rowFilters t := by
    rw [Extender.rowFilters, Extender.rowFilters, ha.filters]
  have hp : s.personAccountExtenders model settings = t.personAccountExtenders model settings := by
    unfold personAccountExtenders excludesPersonAccounts
    rw [ha.object]
  unfold loadPlan
  rw [hb, hf, hp, ha.object, Extender.recordTypes_congr ha hc]
  congr 1
  funext base
  rw [Extender.lookupJoins_congr ha hc]

/-! ## steps without deferred lookups -/

def defers (s : Step) (name : String) : Bool := (s.lookups.get? name).any (·.after)

/-- the step without its deferred lookups and without the fields of their names; the record type
stays, as it is no lookup even when a lookup has its name -/
def withoutDeferred (s : Step) : Step :=
  { s with
    fields := s.fields.filter fun (name, _) => name == StagedLoad.recordTypeField || !s.defers name
    lookups := s.lookups.filter fun (_, l) => !l.after }

theorem insertLookups_withoutDeferred (s : Step) :
    s.withoutDeferred.insertLookups = s.insertLookups := by
  show (s.lookups.toList.filter fun p => !p.2.after).filter (fun p => !p.2.after) = _
  rw [List.filter_filter]
  simp [insertLookups]

theorem hasKey_lookups_withoutDeferred {name : String} (h : s.defers name = false) :
    s.withoutDeferred.lookups.hasKey name = s.lookups.hasKey name := by
  rw [Bool.eq_iff_iff, Roster.hasKey_iff, Roster.hasKey_iff]
  constructor
  · intro hm
    obtain ⟨p, hp, rfl⟩ := List.mem_map.mp hm
    exact List.mem_map_of_mem (List.mem_filter.mp hp).1
  · intro hm
    obtain ⟨p, hp, rfl⟩ := List.mem_map.mp hm
    have hg : s.lookups.find? p.1 = some p := Roster.find?_of_mem hp
    have hl : p.2.after = false := by
      rw [defers, Keyed.get?, hg] at h
      simpa using h
    have hk : p ∈ s.withoutDeferred.lookups.toList :=
      List.mem_filter.mpr ⟨hp, by simp [hl]⟩
    exact List.mem_map_of_mem hk

theorem hasKey_of_defers {name : String} (h : s.defers name = true) :
    s.lookups.hasKey name = true := by
  rw [defers, Option.any_eq_true] at h
  obtain ⟨l, hl, _⟩ := h
  rw [Roster.hasKey_iff]
  exact List.mem_map_of_mem (f := Prod.fst) (Keyed.mem_of_get? hl)

theorem directColumns_withoutDeferred (s : Step) :
    Plan.directColumns s.withoutDeferred = Plan.directColumns s := by
  unfold Plan.directColumns
  congr 1
  show (s.fields.toList.filter _).filter _ = _
  rw [List.filter_filter]
  congr 1
  funext p
  obtain ⟨name, column⟩ := p
  have hr : Plan.unreadFields.contains StagedLoad.recordTypeField = true := by decide
  dsimp only
  by_cases hd : s.defers name = true
  · have hk : s.lookups.hasKey name = true := hasKey_of_defers hd
    by_cases hn : name = StagedLoad.recordTypeField
    · rw [hn, hr]
      rfl
    · simp [hk, hd, hn]
  · rw [Bool.not_eq_true] at hd
    rw [hasKey_lookups_withoutDeferred hd, hd]
    simp

theorem seenAlike_withoutDeferred (s : Step) : s.SeenAlike s.withoutDeferred := by
  refine ⟨rfl, (directColumns_withoutDeferred s).symm, (insertLookups_withoutDeferred s).symm, ?_,
    rfl, rfl⟩
  have hp : ∀ p : String × String, p.1 = StagedLoad.recordTypeField →
      (p.1 == StagedLoad.recordTypeField || !s.defers p.1) = true := by
    intro p h
    simp [h]
  exact congrArg (Option.map Prod.snd) (Roster.find?_filter_of_pos hp s.fields).symm

/-- **A step has the load plan, or the problem, of the step without its deferred lookups.**  So
it has that of every step which differs in deferred lookups only, whatever the catalog has of the
tables that are not asked for. -/
theorem loadPlan_withoutDeferred (s : Step) (catalog : Catalog) (model : Table)
    (settings : QuerySettings) :
    s.loadPlan catalog model settings = s.withoutDeferred.loadPlan catalog model settings ∧
      ∀ t : Step, t.withoutDeferred = s.withoutDeferred → ∀ catalog',
        s.withoutDeferred.ReadsAlike catalog catalog' →
          s.loadPlan catalog model settings = t.loadPlan catalog' model settings := by
  have hw : ∀ (t : Step) (catalog' : Catalog), t.loadPlan catalog' model settings =
      t.withoutDeferred.loadPlan catalog' model settings := by
    intro t catalog'
    exact loadPlan_congr (seenAlike_withoutDeferred t) (fun _ _ => rfl) model settings
  refine ⟨hw s catalog, ?_⟩
  intro t ht catalog' hc
  have ha : s.withoutDeferred.SeenAlike s.withoutDeferred := ⟨rfl, rfl, rfl, rfl, rfl, rfl⟩
  calc s.loadPlan catalog model settings
      = s.withoutDeferred.loadPlan catalog model settings := hw s catalog
    _ = s.withoutDeferred.loadPlan catalog' model settings := loadPlan_congr ha hc model settings
    _ = t.withoutDeferred.loadPlan catalog' model settings := by rw [ht]
    _ = t.loadPlan catalog' model settings := (hw t catalog').symm

/-- a deferred lookup whose column is not in the staging table, into an object that has no table
of ids, and one called like the record type, beside a lookup that is converted -/
theorem loadPlan_withoutDeferred_missing_tables :
    let s : Step := {
      object := "Contact"
      fields := Roster.ofList [("LastName", "LastName"), ("ReportsToId", "boss"),
        ("AccountId", "AccountId")]
      lookups := Roster.ofList [("ReportsToId", { table := "Contact", after := true }),
        ("AccountId", { table := "Account" }),
        (StagedLoad.recordTypeField, { table := "RecordType", after := true })] }
    let t : Step := { s with
      lookups := Roster.ofList [("AccountId", { table := "Account" }),
        ("ReportsToId", { table := "User", keyField := some "manager", after := true })] }
    let model := ((Table.named "Contact").markKey "id").addColumns ["LastName", "AccountId"]
    let catalog := ({} : Catalog).addAll [.idMapping "Account"]
    let catalog' := ({} : Catalog).addAll [.idMapping "User", .idMapping "Account"]
    t.withoutDeferred = s.withoutDeferred ∧ s.withoutDeferred.ReadsAlike catalog catalog' ∧
      (∃ plan, (s.loadPlan catalog model {}).outcome = .ok plan ∧
        plan.columns = [.column "Contact" "id", .column "Contact" "LastName",
          .column "t1" "sf_id"]) ∧
      s.loadPlan catalog model {} = t.loadPlan catalog' model {} := by
  intro s t model catalog catalog'
  have ht : t.withoutDeferred = s.withoutDeferred := by decide +kernel
  have hc : s.withoutDeferred.ReadsAlike catalog catalog' := by
    intro name hm
    have hn : s.withoutDeferred.tablesRead = ["Account_sf_ids"] := by decide +kernel
    rw [hn, List.mem_singleton] at hm
    rw [hm]
    rfl
  have hp : (s.loadPlan catalog model {}).outcome.toOption.map Plan.columns = some
      [.column "Contact" "id", .column "Contact" "LastName", .column "t1" "sf_id"] := by
    decide +kernel
  exact ⟨ht, hc, toOption_map_eq_some.mp hp,
    (loadPlan_withoutDeferred s catalog model {}).2 t ht catalog' hc⟩

end Step

end StagedLoad
