import StagedLoad.Proofs.Query.Scope
import StagedLoad.Proofs.Staging.Registration

/-!
# What a load plan needs

A step needs columns of its staging table and tables of the catalog, in the order in which they
are asked for (`Step.needs`): the columns of the fields that need no conversion, then for each
lookup the table of ids and the column of its values, then what converts its record type.

Every stage of a composition is stopped by the first of its own needs that is not met, and stages
one after the other are stopped by their needs one after the other (`StoppedBy.bind`).  So a load
plan is composed when all needs are met; otherwise the problem is that of the first one that is
not, whatever is missing behind it (`loadPlan_stoppedBy_needs`).
-/

namespace StagedLoad

/-- something that a load plan cannot be composed without -/
inductive Need where
  | column (name : String)
  | ids (object : String)
  /-- a column for the values of a lookup, one of the guesses -/
  | keyField (lookup : String) (guesses : List String)
  | recordTypes (table : String)
  deriving DecidableEq, Repr

namespace Need

section
variable (catalog : Catalog) (model : Table)

def Met : Need → Prop
  | column name => name ∈ model.columns.toList
  | ids object => idTableName object ∈ catalog.tables.keys
  | keyField _ guesses => ∃ guess ∈ guesses, guess ∈ model.columns.toList
  | recordTypes table => table ∈ catalog.tables.keys

def problem : Need → Problem
  | column name => .unknownColumn model.name name
  | ids object => .notInCatalog { table := idTableName object }
  | keyField lookup guesses => .unknownKeyField model.name lookup guesses
  | recordTypes table => .noRecordTypes table { table := table }

/-- the problem is that of the first need that is not met -/
def StopsAt (needs : List Need) (p : Problem) : Prop :=
  ∃ before n behind, needs = before ++ n :: behind ∧ (∀ m ∈ before, m.Met catalog model) ∧
    ¬ n.Met catalog model ∧ p = n.problem model

/-- a computation fails with the problem of the first need that is not met, and with no other -/
def StoppedBy {α : Type} (needs : List Need) (x : Except Problem α) : Prop :=
  ∀ p, x = .error p ↔ StopsAt catalog model needs p

end

variable {catalog : Catalog} {model : Table} {n : Need} {ns ms : List Need} {p : Problem}

/-! ## the first need that is not met -/

theorem not_stopsAt_nil : ¬ StopsAt catalog model [] p := by
  rintro ⟨before, n, behind, he, _⟩
  cases before <;> cases he

theorem stopsAt_cons : StopsAt catalog model (n :: ns) p ↔
    ¬ n.Met catalog model ∧ p = n.problem model ∨
      n.Met catalog model ∧ StopsAt catalog model ns p := by
  constructor
  · rintro ⟨before, m, behind, he, hb, hm, hp⟩
    cases before with
    | nil =>
      cases he
      exact Or.inl ⟨hm, hp⟩
    | cons b before =>
      cases he
      rw [List.forall_mem_cons] at hb
      exact Or.inr ⟨hb.1, before, m, behind, rfl, hb.2, hm, hp⟩
  · intro h
    rcases h with ⟨hn, hp⟩ | ⟨hn, before, m, behind, rfl, hb, hm, hp⟩
    · exact ⟨[], n, ns, rfl, (fun _ hm => nomatch hm), hn, hp⟩
    · exact ⟨n :: before, m, behind, rfl, List.forall_mem_cons.mpr ⟨hn, hb⟩, hm, hp⟩

theorem stopsAt_append : StopsAt catalog model (ns ++ ms) p ↔
    StopsAt catalog model ns p ∨
      (∀ n ∈ ns, n.Met catalog model) ∧ StopsAt catalog model ms p := by
  induction ns with
  | nil => simp [not_stopsAt_nil]
  | cons n ns ih =>
    rw [List.cons_append, stopsAt_cons, stopsAt_cons, ih, List.forall_mem_cons]
    tauto

theorem exists_stopsAt_iff :
    (∃ p, StopsAt catalog model ns p) ↔ ¬ ∀ n ∈ ns, n.Met catalog model := by
  induction ns with
  | nil => simp [not_stopsAt_nil]
  | cons n ns ih =>
    simp only [stopsAt_cons, exists_or, exists_and_left, ih, List.forall_mem_cons, exists_eq,
      and_true]
    tauto

/-! ## stages -/

namespace StoppedBy
variable {α β : Type} {x : Except Problem α} {f : α → Except Problem β}

theorem exists_ok_iff (h : StoppedBy catalog model ns x) :
    (∃ a, x = .ok a) ↔ ∀ n ∈ ns, n.Met catalog model := by
  rw [← not_iff_not, ← exists_stopsAt_iff]
  cases x with
  | ok a =>
    refine iff_of_false (fun hn => hn ⟨a, rfl⟩) ?_
    rintro ⟨p, hp⟩
    have he : Except.ok a = .error p := (h p).mpr hp
    cases he
  | error p =>
    refine iff_of_true ?_ ⟨p, (h p).mp rfl⟩
    rintro ⟨a, ha⟩
    cases ha

theorem ok (a : α) : StoppedBy catalog model [] (.ok a) := by
  intro p
  exact iff_of_false (fun h => nomatch h) not_stopsAt_nil

theorem one (hm : n.Met catalog model → ∃ a, x = .ok a)
    (hn : ¬ n.Met catalog model → x = .error (n.problem model)) :
    StoppedBy catalog model [n] x := by
  intro p
  rw [stopsAt_cons]
  by_cases h : n.Met catalog model
  · obtain ⟨a, rfl⟩ := hm h
    refine iff_of_false (fun he => nomatch he) ?_
    rintro (⟨h', _⟩ | ⟨_, h'⟩)
    · exact h' h
    · exact not_stopsAt_nil h'
  · rw [hn h]
    refine ⟨fun he => Or.inl ⟨h, (Except.error.inj he).symm⟩, ?_⟩
    rintro (⟨_, he⟩ | ⟨h', _⟩)
    · exact congrArg _ he.symm
    · exact absurd h' h

theorem map (h : StoppedBy catalog model ns x) (g : α → β) :
    StoppedBy catalog model ns (x.map g) := by
  intro p
  rw [map_eq_error]
  exact h p

/-- **Stages one after the other are stopped by their needs one after the other.** -/
theorem bind (hx : StoppedBy catalog model ns x)
    (hf : ∀ a, x = .ok a → StoppedBy catalog model ms (f a)) :
    StoppedBy catalog model (ns ++ ms) (x >>= f) := by
  intro p
  rw [bind_eq_error, stopsAt_append]
  refine or_congr (hx p) ⟨?_, ?_⟩
  · rintro ⟨a, ha, he⟩
    exact ⟨hx.exists_ok_iff.mp ⟨a, ha⟩, (hf a ha p).mp he⟩
  · rintro ⟨hm, hp⟩
    obtain ⟨a, ha⟩ := hx.exists_ok_iff.mpr hm
    exact ⟨a, ha, (hf a ha p).mpr hp⟩

end StoppedBy

end Need

/-! ## the needs of a step -/

namespace Step

/-- for a lookup, the ids of the object that it refers to and the column of its values: the one
that it names if it names one, the one called like it, or the snake case of the first of these -/
def lookupNeeds (name : String) (l : Lookup) : List Need :=
  [.ids l.table,
    .keyField name (l.keyField.toList ++ [name, Text.snakeCase (l.keyField.getD name)])]

/-- the tables of record types and the column of the record type, where it is loaded -/
def recordTypeNeeds (s : Step) : List Need :=
  match s.fields.get? recordTypeField with
  | none => []
  | some column =>
    [.recordTypes s.sourceRecordTypes, .recordTypes s.destinationRecordTypes, .column column]

def needs (s : Step) : List Need :=
  s.plainColumns.map .column ++ (s.insertLookups.flatMap fun (name, l) => lookupNeeds name l) ++
    s.recordTypeNeeds

end Step

theorem Catalog.table_of_mem {catalog : Catalog} {name : String}
    (h : name ∈ catalog.tables.keys) : ∃ t, catalog.table name = .ok t := by
  obtain ⟨t, ht, hn⟩ := List.mem_map.mp h
  exact ⟨t, table_eq_ok_iff.mpr ⟨ht, hn⟩⟩

theorem Catalog.table_of_not_mem {catalog : Catalog} {name : String}
    (h : name ∉ catalog.tables.keys) : catalog.table name = .error { table := name } :=
  table_eq_error_iff.mpr ⟨h, rfl⟩

/-! ## what stops each stage -/

namespace Need
variable (catalog : Catalog) (model : Table)

theorem stoppedBy_columns {α : Type} (cs : List String) (a : α) :
    StoppedBy catalog model (cs.map column)
      (match cs.find? fun c => !model.hasColumn c with
        | some c => .error (.unknownColumn model.name c)
        | none => .ok a) := by
  induction cs with
  | nil => exact .ok a
  | cons c cs ih =>
    intro p
    rw [List.map_cons, stopsAt_cons, List.find?_cons]
    have hc : (column c).Met catalog model ↔ model.hasColumn c = true :=
      (model.hasColumn_iff c).symm
    rw [hc]
    cases model.hasColumn c with
    | true => simpa using ih p
    | false =>
      simp only [Bool.not_false, Bool.false_eq_true, not_false_eq_true, true_and, false_and,
        or_false]
      exact ⟨fun h => (Except.error.inj h).symm, fun h => congrArg _ h.symm⟩

theorem stoppedBy_base (s : Step) :
    StoppedBy catalog model (s.plainColumns.map column) (Plan.base s model) := by
  rw [← s.directColumns_eq]
  exact stoppedBy_columns catalog model (Plan.directColumns s) _

theorem stoppedBy_keyFieldIn (name : String) (l : Lookup) :
    StoppedBy catalog model
      [.keyField name (l.keyField.toList ++ [name, Text.snakeCase (l.keyField.getD name)])]
      (l.keyFieldIn name model) := by
  rw [← l.guesses_eq name]
  refine .one (fun hm => ?_) (fun hn => ?_)
  · obtain ⟨guess, hg, hc⟩ := hm
    cases hk : l.keyFieldIn name model with
    | error p =>
      rw [← model.hasColumn_iff, (Lookup.keyFieldIn_eq_error_iff.mp hk).1 guess hg] at hc
      cases hc
    | ok column => exact ⟨column, rfl⟩
  · refine Lookup.keyFieldIn_eq_error_iff.mpr ⟨fun guess hg => ?_, rfl⟩
    rw [Bool.eq_false_iff]
    intro hc
    exact hn ⟨guess, hg, (model.hasColumn_iff guess).mp hc⟩

theorem stoppedBy_resolve (name : String) (l : Lookup) :
    StoppedBy catalog model (Step.lookupNeeds name l) (l.resolve name catalog model) := by
  intro p
  rw [Step.lookupNeeds, stopsAt_cons, Lookup.resolve]
  by_cases hm : (ids l.table).Met catalog model
  · obtain ⟨t, ht⟩ := Catalog.table_of_mem hm
    have hkey := (stoppedBy_keyFieldIn catalog model name l).map (fun key => (t, key)) p
    rw [ht]
    simpa [hm] using hkey
  · have hp : (Except.error (.notInCatalog { table := idTableName l.table }) :
        Except Problem (Table × String)) = .error p ↔ p = (ids l.table).problem model :=
      ⟨fun h => (Except.error.inj h).symm, fun h => congrArg _ h.symm⟩
    rw [Catalog.table_of_not_mem hm]
    simpa [hm] using hp

theorem stoppedBy_sitesOf (ls : List (String × Lookup)) :
    StoppedBy catalog model (ls.flatMap fun (name, l) => Step.lookupNeeds name l)
      (Extender.sitesOf catalog model ls) := by
  induction ls with
  | nil => exact .ok []
  | cons x ls ih =>
    obtain ⟨name, l⟩ := x
    rw [Extender.sitesOf_cons, List.flatMap_cons]
    exact (stoppedBy_resolve catalog model name l).bind fun site _ => ih.map (site :: ·)

theorem stoppedBy_recordTypeTable (table : String) :
    StoppedBy catalog model [recordTypes table] (Extender.recordTypeTable catalog table) := by
  refine .one (fun hm => ?_) (fun hn => ?_)
  · obtain ⟨t, ht⟩ := Catalog.table_of_mem hm
    exact ⟨t, Extender.recordTypeTable_eq_ok.mpr ht⟩
  · rw [Extender.recordTypeTable, Catalog.table_of_not_mem hn]
    rfl

theorem stoppedBy_recordTypeConversion (s : Step) :
    StoppedBy catalog model s.recordTypeNeeds
      (Extender.recordTypeConversion s catalog model) := by
  unfold Step.recordTypeNeeds Extender.recordTypeConversion
  cases s.fields.get? recordTypeField with
  | none => exact .ok _
  | some c =>
    refine (stoppedBy_recordTypeTable catalog model s.sourceRecordTypes).bind fun source _ => ?_
    refine (stoppedBy_recordTypeTable catalog model s.destinationRecordTypes).bind
      fun destination _ => ?_
    have hc : (column c).Met catalog model ↔ model.hasColumn c = true :=
      (model.hasColumn_iff c).symm
    refine .one (fun hm => ?_) (fun hn => ?_)
    · rw [if_pos (hc.mp hm)]
      exact ⟨_, rfl⟩
    · rw [if_neg fun h => hn (hc.mpr h)]
      rfl

end Need

/-- **A load plan is composed, and is free of undefined names, exactly when every need of its step
is met; otherwise the problem is that of the first need that is not.** -/
theorem Step.loadPlan_stoppedBy_needs (s : Step) (catalog : Catalog) (model : Table)
    (settings : QuerySettings) :
    (∀ p, (s.loadPlan catalog model settings).outcome = .error p ↔
      Need.StopsAt catalog model s.needs p) ∧
    ((∃ plan, (s.loadPlan catalog model settings).outcome = .ok plan ∧
      plan.undefinedNames = []) ↔ ∀ n ∈ s.needs, n.Met catalog model) := by
  have hstop : Need.StoppedBy catalog model s.needs
      (s.loadPlan catalog model settings).outcome := by
    rw [outcome_loadPlan, needs, List.append_assoc]
    refine (Need.stoppedBy_base catalog model s).bind fun _ _ => ?_
    refine (Need.stoppedBy_sitesOf catalog model s.insertLookups).bind fun sites _ => ?_
    exact (Need.stoppedBy_recordTypeConversion catalog model s).map
      fun added => s.planOf model settings sites added
  refine ⟨hstop, ?_⟩
  rw [← hstop.exists_ok_iff]
  constructor
  · rintro ⟨plan, hp, _⟩
    exact ⟨plan, hp⟩
  · rintro ⟨plan, hp⟩
    obtain ⟨_, sites, _, added, ha, rfl⟩ := loadPlan_eq_ok.mp hp
    exact ⟨_, hp, undefinedNames_planOf ha⟩

/-- the second lookup finds no column, the third no ids, and the record types are missing too -/
example :
    let s : Step := {
      object := "Contact"
      fields := Roster.ofList [("Id", "none"), ("AccountId", "none"), ("RecordTypeId", "none")]
      lookups := Roster.ofList [("AccountId", { table := "Account" }),
        ("OwnerId", { table := "Account", keyField := some "BossId" }),
        ("ReportsToId", { table := "Contact" })] }
    let model := ((Table.named "contacts").markKey "id").addColumn "account_id"
    let catalog := ({} : Catalog).addAll [.idMapping "Account"]
    (match (s.loadPlan catalog model {}).outcome with
      | .error p => some p
      | .ok _ => none) =
        some (.unknownKeyField "contacts" "OwnerId" ["BossId", "OwnerId", "boss_id"]) := by
  decide +kernel

end StagedLoad
