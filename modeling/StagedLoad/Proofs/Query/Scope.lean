import StagedLoad.Proofs.Query.Layout
import StagedLoad.Proofs.Staging.DerivedNames

/-!
# Names in a load query

A plan has no undefined names when each join condition keeps to its own name and those before it,
and all other expressions keep to the names that the plan introduces (`undefinedNames_eq_nil`).
Every load plan is like that, and it introduces no name twice unless its staging table is called
like one of the tables of record types (`loadPlan_scoped`).
-/

namespace StagedLoad

/-! ## the columns of an expression -/

/-- every column that the expression reads, with its qualifier, is a good one -/
def Expr.Keeps (good : String → String → Prop) (e : Expr) : Prop :=
  ∀ x ∈ e.columns, good x.1 x.2

/-- the expression calls tables by known names only -/
abbrev Expr.Within (known : List String) (e : Expr) : Prop := e.Keeps fun q _ => q ∈ known

namespace Expr
variable {good good' : String → String → Prop} {known known' : List String} {e l r : Expr}

theorem Keeps.mono (h : ∀ q c, good q c → good' q c) (he : e.Keeps good) : e.Keeps good' :=
  fun x hx => h x.1 x.2 (he x hx)

theorem Within.mono (h : known ⊆ known') (he : e.Within known) : e.Within known' :=
  Keeps.mono (fun _ _ hq => h hq) he

@[simp] theorem keeps_column {q c : String} : (column q c).Keeps good ↔ good q c :=
  List.forall_mem_singleton

@[simp] theorem keeps_text {v : String} : (text v).Keeps good := fun _ h => nomatch h

@[simp] theorem keeps_raw {sql : String} : (raw sql).Keeps good := fun _ h => nomatch h

@[simp] theorem keeps_eq : (eq l r).Keeps good ↔ l.Keeps good ∧ r.Keeps good :=
  List.forall_mem_append

@[simp] theorem keeps_ne : (ne l r).Keeps good ↔ l.Keeps good ∧ r.Keeps good :=
  List.forall_mem_append

@[simp] theorem keeps_isNull : (isNull e).Keeps good ↔ e.Keeps good := Iff.rfl

@[simp] theorem keeps_or : (or l r).Keeps good ↔ l.Keeps good ∧ r.Keeps good :=
  List.forall_mem_append

@[simp] theorem keeps_lower : (lower e).Keeps good ↔ e.Keeps good := Iff.rfl

@[simp] theorem keeps_castText : (castText e).Keeps good ↔ e.Keeps good := Iff.rfl

theorem keeps_isBusinessContact {model : String} :
    (Extender.isBusinessContact model).Keeps good ↔ good model Extender.personAccountColumn := by
  simp [Extender.isBusinessContact]

theorem within_iff : e.Within known ↔ ∀ q ∈ e.qualifiers, q ∈ known := by
  rw [qualifiers_eq, List.forall_mem_map]
  rfl

end Expr

namespace Plan

/-! ## plans without undefined names -/

def JoinsWithin : List String → List Join → Prop
  | _, [] => True
  | known, j :: js =>
    j.condition.Within (j.table.name :: known) ∧ JoinsWithin (j.table.name :: known) js

theorem unknownIn_eq_nil {known : List String} {es : List Expr} :
    unknownIn known es = [] ↔ ∀ e ∈ es, e.Within known := by
  simp [unknownIn, Expr.within_iff, List.flatMap_eq_nil_iff, List.filter_eq_nil_iff]

theorem unknownInJoins_eq_nil {known : List String} {js : List Join} :
    unknownInJoins known js = [] ↔ JoinsWithin known js := by
  induction js generalizing known with
  | nil => simp [unknownInJoins, JoinsWithin]
  | cons j js ih =>
    rw [unknownInJoins, JoinsWithin, List.append_eq_nil_iff, unknownIn_eq_nil, ih]
    simp

theorem undefinedNames_eq_nil {p : Plan} :
    p.undefinedNames = [] ↔
      JoinsWithin [p.source.name] p.joins ∧
        ∀ e ∈ p.columns ++ p.filters ++ p.orderBy, e.Within p.names := by
  rw [undefinedNames, List.append_eq_nil_iff, unknownInJoins_eq_nil, unknownIn_eq_nil]

theorem JoinsWithin.mono {known known' : List String} (h : known ⊆ known') {js : List Join}
    (hj : JoinsWithin known js) : JoinsWithin known' js := by
  induction js generalizing known known' with
  | nil => trivial
  | cons j js ih =>
    have hc : j.table.name :: known ⊆ j.table.name :: known' := List.cons_subset_cons _ h
    exact ⟨hj.1.mono hc, ih hc hj.2⟩

theorem joinsWithin_append {known : List String} {as bs : List Join}
    (ha : JoinsWithin known as)
    (hb : JoinsWithin (as.map (fun j => j.table.name) ++ known) bs) :
    JoinsWithin known (as ++ bs) := by
  induction as generalizing known with
  | nil => exact hb
  | cons j js ih =>
    refine ⟨ha.1, ih ha.2 (hb.mono fun x hx => ?_)⟩
    simp only [List.map_cons, List.cons_append, List.mem_cons, List.mem_append] at hx ⊢
    tauto

theorem joinsWithin_of_forall {known : List String} {js : List Join}
    (h : ∀ j ∈ js, j.condition.Within (j.table.name :: known)) : JoinsWithin known js := by
  induction js generalizing known with
  | nil => trivial
  | cons j js ih =>
    refine ⟨h j (List.mem_cons_self ..), ih fun j' hj' => ?_⟩
    exact (h j' (List.mem_cons_of_mem _ hj')).mono
      (List.cons_subset_cons _ (List.subset_cons_self ..))

end Plan

/-! ## the names of a load plan -/

namespace Extender

theorem mem_converted {model : String} {sites : List (Table × String)} {names : List String}
    {x : Expr × Join} (h : x ∈ converted model sites names) :
    ∃ site ∈ sites, ∃ name ∈ names, x = Lookup.conversion site.1.name name model site.2 := by
  obtain ⟨⟨site, name⟩, hz, rfl⟩ := List.mem_map.mp h
  obtain ⟨hs, hn⟩ := List.of_mem_zip hz
  exact ⟨site, hs, name, hn, rfl⟩

theorem names_converted {model : String} {sites : List (Table × String)} {names : List String}
    (h : names.length = sites.length) :
    (converted model sites names).map (fun x => x.2.table.name) = names := by
  have : (converted model sites names).map (fun x => x.2.table.name) =
      (sites.zip names).map Prod.snd := by
    rw [converted, List.map_map]
    rfl
  rw [this, List.map_snd_zip (by omega)]

end Extender

namespace Step

theorem length_joinNames (model : Table) (n : Nat) : (joinNames model n).length = n :=
  Aliases.length_take n _

theorem nodup_joinNames (model : Table) (n : Nat) : (model.name :: joinNames model n).Nodup := by
  obtain ⟨hnd, hf⟩ := Aliases.fresh_take n (({} : Aliases).reserve model.name)
  rw [List.nodup_cons]
  exact ⟨fun h => hf _ h (List.mem_cons_self ..), hnd⟩

theorem derived_not_mem_joinNames {p : String} (hp : p ∈ derivedEndings) (a : String)
    (model : Table) (n : Nat) : a ++ p ∉ joinNames model n := by
  intro hm
  obtain ⟨k, hk⟩ := Aliases.numbered_of_mem_take hm
  exact nameOf_ne_derived hp k a hk.symm

variable {s : Step} {catalog : Catalog} {model : Table} {settings : QuerySettings}
  {sites : List (Table × String)} {added : List Expr × List Join}

theorem names_planOf :
    (s.planOf model settings sites added).names =
      model.name :: joinNames model sites.length ++ added.2.map (fun j => j.table.name) := by
  unfold Plan.names planOf
  dsimp only
  rw [List.map_append, List.map_map]
  have h : (Extender.converted model.name sites (joinNames model sites.length)).map
      (fun x => x.2.table.name) = joinNames model sites.length :=
    Extender.names_converted (length_joinNames model sites.length)
  rw [Function.comp_def, h]
  rfl

theorem mem_names_of_mem_joinNames {name : String} (h : name ∈ joinNames model sites.length) :
    name ∈ (s.planOf model settings sites added).names := by
  rw [names_planOf]
  exact List.mem_append_left _ (List.mem_cons_of_mem _ h)

theorem model_mem_names : model.name ∈ (s.planOf model settings sites added).names :=
  List.mem_cons_self ..

theorem joinsWithin_planOf (ha : Extender.recordTypeConversion s catalog model = .ok added) :
    Plan.JoinsWithin [model.name] (s.planOf model settings sites added).joins := by
  apply Plan.joinsWithin_append
  · apply Plan.joinsWithin_of_forall
    intro j hj
    obtain ⟨x, hx, rfl⟩ := List.mem_map.mp hj
    obtain ⟨site, _, name, _, rfl⟩ := Extender.mem_converted hx
    simp [Lookup.conversion]
  · rcases Extender.recordTypeConversion_eq_ok.mp ha with ⟨_, rfl⟩ | ⟨column, _, _, _, _, rfl⟩
    · trivial
    · simp [Extender.recordTypeJoins, Plan.JoinsWithin, TableRef.plain]

theorem mem_filters_planOf {e : Expr} (h : e ∈ (s.planOf model settings sites added).filters) :
    (∃ v, model.hasColumn recordTypeColumn = true ∧
      e = .eq (.column model.name recordTypeColumn) (.text v)) ∨
    (∃ sql, e = .raw sql) ∨
    (model.hasColumn Extender.personAccountColumn = true ∧
      e = Extender.isBusinessContact model.name) := by
  rcases List.mem_append.mp h with h | h
  · rcases List.mem_append.mp h with h | h
    · unfold Extender.recordTypeFilters at h
      split at h
      · cases h
      · next v _ =>
        split at h
        · next hc => exact Or.inl ⟨v, hc, List.mem_singleton.mp h⟩
        · cases h
    · obtain ⟨sql, _, rfl⟩ := List.mem_map.mp h
      exact Or.inr (Or.inl ⟨sql, rfl⟩)
  · split at h
    · next hp =>
      unfold excludesPersonAccounts at hp
      rw [Bool.and_eq_true] at hp
      exact Or.inr (Or.inr ⟨hp.2, List.mem_singleton.mp h⟩)
    · cases h

theorem within_filters {e : Expr} (h : e ∈ (s.planOf model settings sites added).filters) :
    e.Within [model.name] := by
  rcases mem_filters_planOf h with ⟨v, _, rfl⟩ | ⟨sql, rfl⟩ | ⟨_, rfl⟩
  · simp
  · simp
  · exact Expr.keeps_isBusinessContact.mpr (List.mem_singleton_self _)

theorem within_columns (ha : Extender.recordTypeConversion s catalog model = .ok added) {e : Expr}
    (h : e ∈ (s.planOf model settings sites added).columns) :
    e.Within (s.planOf model settings sites added).names := by
  rcases List.mem_append.mp h with h | h
  · rcases List.mem_append.mp h with h | h
    · rcases List.mem_cons.mp h with rfl | h
      · exact Expr.keeps_column.mpr model_mem_names
      · obtain ⟨column, _, rfl⟩ := List.mem_map.mp h
        exact Expr.keeps_column.mpr model_mem_names
    · obtain ⟨x, hx, rfl⟩ := List.mem_map.mp h
      obtain ⟨site, _, name, hn, rfl⟩ := Extender.mem_converted hx
      exact Expr.keeps_column.mpr (mem_names_of_mem_joinNames hn)
  · rcases Extender.recordTypeConversion_eq_ok.mp ha with ⟨_, rfl⟩ | ⟨column, _, _, _, _, rfl⟩
    · cases h
    · rw [List.mem_singleton] at h
      subst h
      refine Expr.keeps_column.mpr ?_
      rw [names_planOf]
      simp [Extender.recordTypeJoins, TableRef.plain]

theorem undefinedNames_planOf (ha : Extender.recordTypeConversion s catalog model = .ok added) :
    (s.planOf model settings sites added).undefinedNames = [] := by
  rw [Plan.undefinedNames_eq_nil]
  refine ⟨joinsWithin_planOf ha, fun e he => ?_⟩
  have hm : [model.name] ⊆ (s.planOf model settings sites added).names :=
    fun q hq => List.mem_singleton.mp hq ▸ model_mem_names
  rcases List.mem_append.mp he with he | he
  · rcases List.mem_append.mp he with he | he
    · exact within_columns ha he
    · exact (within_filters he).mono hm
  · rw [show (s.planOf model settings sites added).orderBy = [.column model.name model.rowId]
      from rfl, List.mem_singleton] at he
    subst he
    exact Expr.keeps_column.mpr model_mem_names

theorem nodup_names_planOf (ha : Extender.recordTypeConversion s catalog model = .ok added)
    (hs : model.name ≠ s.sourceRecordTypes) (hd : model.name ≠ s.destinationRecordTypes) :
    (s.planOf model settings sites added).names.Nodup := by
  rw [names_planOf]
  have hj := nodup_joinNames model sites.length
  rcases Extender.recordTypeConversion_eq_ok.mp ha with ⟨_, rfl⟩ | ⟨column, _, _, _, _, rfl⟩
  · simpa using hj
  · have hsd : s.sourceRecordTypes ≠ s.destinationRecordTypes := by
      rw [sourceRecordTypes_eq, destinationRecordTypes_eq]
      intro h
      exact absurd (derived_inj (by decide) (by decide) h).1 (by decide)
    rw [List.nodup_append]
    refine ⟨hj, by simpa [Extender.recordTypeJoins, TableRef.plain] using hsd, ?_⟩
    intro x hx y hy e
    subst e
    simp only [Extender.recordTypeJoins, TableRef.plain, List.map_cons, List.map_nil,
      List.mem_cons, List.not_mem_nil, or_false] at hy
    rcases List.mem_cons.mp hx with rfl | hx
    · rcases hy with hy | hy
      · exact hs hy
      · exact hd hy
    · rcases hy with rfl | rfl
      · exact derived_not_mem_joinNames (p := "_rt_mapping") (by decide) _ _ _ hx
      · exact derived_not_mem_joinNames (p := "_rt_target_mapping") (by decide) _ _ _ hx

/-! ## the problem of person accounts -/

theorem sitesOf_ne_notContact (catalog : Catalog) (model : Table) (ls : List (String × Lookup))
    (object : String) : Extender.sitesOf catalog model ls ≠ .error (.notContact object) := by
  intro h
  obtain ⟨⟨name, l⟩, _, h⟩ := exists_of_mapM_eq_error h
  dsimp only at h
  unfold Lookup.resolve at h
  split at h
  · cases h
  · obtain ⟨_, h⟩ := Lookup.keyFieldIn_eq_error_iff.mp (map_eq_error.mp h)
    cases h

theorem recordTypeTable_ne_notContact (catalog : Catalog) (name object : String) :
    Extender.recordTypeTable catalog name ≠ .error (.notContact object) := by
  unfold Extender.recordTypeTable
  split <;> exact fun h => nomatch h

theorem recordTypeConversion_ne_notContact (s : Step) (catalog : Catalog) (model : Table)
    (object : String) :
    Extender.recordTypeConversion s catalog model ≠ .error (.notContact object) := by
  unfold Extender.recordTypeConversion
  split
  · exact fun h => nomatch h
  · intro h
    rcases bind_eq_error.mp h with h | ⟨source, _, h⟩
    · exact recordTypeTable_ne_notContact _ _ _ h
    · rcases bind_eq_error.mp h with h | ⟨destination, _, h⟩
      · exact recordTypeTable_ne_notContact _ _ _ h
      · split at h <;> cases h

/-- no composition asks for the condition on person accounts where it makes no sense -/
theorem loadPlan_ne_notContact (s : Step) (catalog : Catalog) (model : Table)
    (settings : QuerySettings) (object : String) :
    (s.loadPlan catalog model settings).outcome ≠ .error (.notContact object) := by
  rw [outcome_loadPlan]
  intro h
  rcases bind_eq_error.mp h with h | ⟨_, _, h⟩
  · unfold Plan.base at h
    dsimp only at h
    split at h <;> cases h
  · rcases bind_eq_error.mp h with h | ⟨sites, _, h⟩
    · exact sitesOf_ne_notContact _ _ _ _ h
    · rcases bind_eq_error.mp h with h | ⟨added, _, h⟩
      · exact recordTypeConversion_ne_notContact _ _ _ _ h
      · cases h

/-- **Every load plan introduces the names that it uses, before it uses them; it introduces none
twice unless its staging table is called like a table of record types; and person accounts never
stop a composition.** -/
theorem loadPlan_scoped (s : Step) (catalog : Catalog) (model : Table)
    (settings : QuerySettings) :
    (∀ plan, (s.loadPlan catalog model settings).outcome = .ok plan →
      plan.undefinedNames = [] ∧
      (model.name ≠ s.sourceRecordTypes → model.name ≠ s.destinationRecordTypes →
        plan.names.Nodup)) ∧
    (∃ es, s.personAccountExtenders model settings = .ok es) ∧
    ∀ object, (s.loadPlan catalog model settings).outcome ≠ .error (.notContact object) := by
  refine ⟨fun plan h => ?_, ⟨_, personAccountExtenders_eq s model settings⟩,
    loadPlan_ne_notContact s catalog model settings⟩
  obtain ⟨_, sites, _, added, ha, rfl⟩ := loadPlan_eq_ok.mp h
  exact ⟨undefinedNames_planOf ha, nodup_names_planOf ha⟩

/-- a staging table that is called like a joined one: the joined tables make way -/
theorem loadPlan_scoped_numbered_model :
    let s : Step := {
      object := "Contact"
      table := some "t1"
      fields := Roster.ofList [("LastName", "LastName"), ("RecordTypeId", "RecordTypeId")]
      lookups := Roster.ofList [("AccountId", { table := "Account" }),
        ("ReportsToId", { table := "Contact" })] }
    let model := ((Table.named "t1").markKey "id").addColumns
      ["LastName", "RecordTypeId", "AccountId", "ReportsToId"]
    let catalog := ({} : Catalog).addAll [.idMapping "Account", .idMapping "Contact",
      .recordTypeMapping "Contact_rt_mapping", .recordTypeMapping "Contact_rt_target_mapping"]
    ∃ plan, (s.loadPlan catalog model {}).outcome = .ok plan ∧
      plan.names = ["t1", "t2", "t3", "Contact_rt_mapping", "Contact_rt_target_mapping"] ∧
      plan.undefinedNames = [] ∧ plan.names.Nodup := by
  intro s model catalog
  have hn : (s.loadPlan catalog model {}).outcome.toOption.map Plan.names =
      some ["t1", "t2", "t3", "Contact_rt_mapping", "Contact_rt_target_mapping"] := by
    decide +kernel
  cases hp : (s.loadPlan catalog model {}).outcome with
  | error p => rw [hp] at hn; cases hn
  | ok plan =>
    rw [hp] at hn
    obtain ⟨hu, hd⟩ := (loadPlan_scoped s catalog model {}).1 plan hp
    exact ⟨plan, rfl, Option.some.inj hn, hu, hd (by decide) (by decide)⟩

end Step

end StagedLoad
