import StagedLoad.Proofs.Query.Scope

/-!
# The places of the columns of a load plan

Whoever reads the rows of a load plan takes their values by place: first the id, then the fields
that are read as they are in the order of the step, then the ids of the lookups in their order, and
the record type at the end where it is loaded.  The joins stand in the same order, so the `k`-th
lookup has the `k`-th join; and its column bears a name that no other column and no other join
bears (`loadPlan_laidOut`).
-/

namespace StagedLoad

/-! ## places in a list -/

theorem place_of_getElem? {α : Type} {as bs cs : List α} {b : α} {k i : Nat} (hn : bs.Nodup)
    (hk : bs[k]? = some b) (ha : b ∉ as) (hc : b ∉ cs) (hi : (as ++ bs ++ cs)[i]? = some b) :
    i = as.length + k := by
  rw [List.append_assoc] at hi
  have hge : as.length ≤ i := by
    by_contra hlt
    rw [List.getElem?_append_left (by omega)] at hi
    exact ha (List.mem_of_getElem? hi)
  rw [List.getElem?_append_right hge] at hi
  have hlt : i - as.length < bs.length := by
    by_contra hle
    rw [List.getElem?_append_right (by omega)] at hi
    exact hc (List.mem_of_getElem? hi)
  rw [List.getElem?_append_left hlt] at hi
  have he : i - as.length = k := (List.getElem?_inj hlt hn).mp (hi.trans hk.symm)
  omega

theorem getElem?_middle {α : Type} {as bs cs : List α} {b : α} {k : Nat} (hk : bs[k]? = some b) :
    (as ++ bs ++ cs)[as.length + k]? = some b := by
  have hlt : k < bs.length := (List.getElem?_eq_some_iff.mp hk).1
  rw [List.append_assoc, List.getElem?_append_right (by omega), Nat.add_sub_cancel_left,
    List.getElem?_append_left hlt]
  exact hk

/-! ## layouts -/

/-- the join reads the ids of the object that a lookup refers to, by the value of the lookup -/
structure Lookup.JoinedBy (l : Lookup) (name : String) (model : Table) (j : Join) : Prop where
  table : j.table.table = idTableName l.table
  condition : ∃ key, l.keyFieldIn name model = .ok key ∧
    j.condition = .eq (.column j.table.name idColumn) (.castText (.column model.name key))

/-- the parts of a plan stand in the order of the step, those for its lookups in front of those
for its record type -/
structure Step.LaysOut (s : Step) (model : Table) (lookups types : List Join) (plan : Plan) :
    Prop where
  source : plan.source = .plain model.name
  columns : plan.columns =
    (.column model.name model.rowId :: s.plainColumns.map (.column model.name)) ++
      lookups.map (fun j => .column j.table.name orgIdColumn) ++
      if s.hasField recordTypeField then [.column s.destinationRecordTypes recordTypeIdColumn]
      else []
  joins : plan.joins = lookups ++ types
  lookups : List.Forall₂ (fun x j => x.2.JoinedBy x.1 model j) s.insertLookups lookups
  types : types = match s.fields.get? recordTypeField with
    | none => []
    | some column =>
      [{ table := .plain s.sourceRecordTypes
         condition := .eq (.column s.sourceRecordTypes recordTypeIdColumn)
          (.column model.name column) },
       { table := .plain s.destinationRecordTypes
         condition := .eq (.column s.destinationRecordTypes developerNameColumn)
          (.column s.sourceRecordTypes developerNameColumn) }]
  orderBy : plan.orderBy = [.column model.name model.rowId]

/-- a name is borne by one join, and by the id column at one place -/
structure Plan.NamesOne (plan : Plan) (name : String) (join column : Nat) : Prop where
  reads : plan.columns[column]? = some (.column name orgIdColumn)
  columns : ∀ (i : Nat) (e : Expr), plan.columns[i]? = some e → name ∈ e.qualifiers → i = column
  joins : ∀ (i : Nat) (j : Join), plan.joins[i]? = some j → j.table.name = name → i = join

namespace Step
variable {s : Step} {catalog : Catalog} {model : Table} {settings : QuerySettings} {plan : Plan}
  {lookups types : List Join}

theorem hasField_of_get? {name column : String} (h : s.fields.get? name = some column) :
    s.hasField name = true := by
  rw [hasField, Roster.hasKey_iff]
  exact List.mem_map_of_mem (f := Prod.fst) (Keyed.mem_of_get? h)

theorem not_hasField_of_get? {name : String} (h : s.fields.get? name = none) :
    s.hasField name = false := by
  rw [hasField, Bool.eq_false_iff]
  intro hk
  exact (Keyed.get?_eq_none_iff _ _).mp h ((Roster.hasKey_iff _ _).mp hk)

/-! ## the columns by place -/

def qualifierNames (s : Step) (model : Table) (lookups : List Join) : List String :=
  (model.name :: s.plainColumns.map fun _ => model.name) ++ lookups.map (·.table.name) ++
    if s.hasField recordTypeField then [s.destinationRecordTypes] else []

theorem LaysOut.qualifiers (h : s.LaysOut model lookups types plan) :
    plan.columns.map Expr.qualifiers = (s.qualifierNames model lookups).map fun q => [q] := by
  rw [h.columns, qualifierNames]
  split
  · simp [Expr.qualifiers, Function.comp_def]
  · simp [Expr.qualifiers, Function.comp_def]

theorem LaysOut.getElem?_of_mem (h : s.LaysOut model lookups types plan) {i : Nat} {e : Expr}
    {name : String} (he : plan.columns[i]? = some e) (hm : name ∈ e.qualifiers) :
    (s.qualifierNames model lookups)[i]? = some name := by
  have hq : (plan.columns.map Expr.qualifiers)[i]? = some e.qualifiers := by
    rw [List.getElem?_map, he]
    rfl
  rw [h.qualifiers, List.getElem?_map, Option.map_eq_some_iff] at hq
  obtain ⟨q, hq, hl⟩ := hq
  rw [← hl, List.mem_singleton] at hm
  rw [hm]
  exact hq

theorem LaysOut.names_types (h : s.LaysOut model lookups types plan) {name : String}
    (hm : name ∈ types.map (·.table.name)) :
    name = s.sourceRecordTypes ∨ name = s.destinationRecordTypes := by
  rw [h.types] at hm
  cases hf : s.fields.get? recordTypeField with
  | none =>
    rw [hf] at hm
    cases hm
  | some column =>
    rw [hf] at hm
    simpa [TableRef.plain] using hm

theorem LaysOut.column_of_lookup (h : s.LaysOut model lookups types plan) {k : Nat} {j : Join}
    (hk : lookups[k]? = some j) :
    plan.columns[1 + s.plainColumns.length + k]? = some (.column j.table.name orgIdColumn) := by
  have hcolumn : (lookups.map fun j => Expr.column j.table.name orgIdColumn)[k]? =
      some (.column j.table.name orgIdColumn) := by
    rw [List.getElem?_map, hk]
    rfl
  have hlength : 1 + s.plainColumns.length =
      (Expr.column model.name model.rowId :: s.plainColumns.map (.column model.name)).length := by
    rw [List.length_cons, List.length_map]
    omega
  rw [h.columns, hlength]
  exact getElem?_middle hcolumn

section
variable {k : Nat} {j : Join}

theorem getElem?_names (hk : lookups[k]? = some j) :
    (lookups.map (·.table.name))[k]? = some j.table.name := by
  rw [List.getElem?_map, hk]
  rfl

theorem LaysOut.place_of_qualifier (h : s.LaysOut model lookups types plan)
    (hn : (model.name :: lookups.map (·.table.name)).Nodup)
    (hd : j.table.name ≠ s.destinationRecordTypes) (hk : lookups[k]? = some j) {i : Nat} {e : Expr}
    (he : plan.columns[i]? = some e) (hm : j.table.name ∈ e.qualifiers) :
    i = 1 + s.plainColumns.length + k := by
  rw [List.nodup_cons] at hn
  have hname := getElem?_names hk
  have hfront : j.table.name ∉ model.name :: s.plainColumns.map fun _ => model.name := by
    intro hf
    have hmodel : j.table.name = model.name := by
      rcases List.mem_cons.mp hf with he | hf
      · exact he
      · obtain ⟨_, _, he⟩ := List.mem_map.mp hf
        exact he.symm
    exact hn.1 (hmodel ▸ List.mem_of_getElem? hname)
  have hback : j.table.name ∉
      if s.hasField recordTypeField then [s.destinationRecordTypes] else [] := by
    intro hf
    split at hf
    · exact hd (List.mem_singleton.mp hf)
    · cases hf
  have hplace := place_of_getElem? hn.2 hname hfront hback (h.getElem?_of_mem he hm)
  rw [List.length_cons, List.length_map] at hplace
  omega

theorem LaysOut.place_of_join (h : s.LaysOut model lookups types plan)
    (hn : (lookups.map (·.table.name)).Nodup) (hs : j.table.name ≠ s.sourceRecordTypes)
    (hd : j.table.name ≠ s.destinationRecordTypes) (hk : lookups[k]? = some j) {i : Nat} {j' : Join}
    (hj : plan.joins[i]? = some j') (he : j'.table.name = j.table.name) : i = k := by
  have hi : (([] : List String) ++ lookups.map (·.table.name) ++ types.map (·.table.name))[i]? =
      some j.table.name := by
    rw [List.nil_append, ← List.map_append, ← h.joins, List.getElem?_map, hj, ← he]
    rfl
  have hback : j.table.name ∉ types.map (·.table.name) := by
    intro hf
    rcases h.names_types hf with he | he
    · exact hs he
    · exact hd he
  have hplace : i = [].length + k :=
    place_of_getElem? hn (getElem?_names hk) List.not_mem_nil hback hi
  rw [hplace, List.length_nil, Nat.zero_add]

theorem LaysOut.namesOne (h : s.LaysOut model lookups types plan)
    (hn : (model.name :: lookups.map (·.table.name)).Nodup)
    (hd : ∀ name ∈ lookups.map (·.table.name),
      name ≠ s.sourceRecordTypes ∧ name ≠ s.destinationRecordTypes)
    (hk : lookups[k]? = some j) :
    plan.NamesOne j.table.name k (1 + s.plainColumns.length + k) := by
  obtain ⟨hs, hdest⟩ := hd _ (List.mem_of_getElem? (getElem?_names hk))
  refine ⟨h.column_of_lookup hk, ?_, ?_⟩
  · intro i e he hm
    exact h.place_of_qualifier hn hdest hk he hm
  · intro i j' hj he
    exact h.place_of_join (List.nodup_cons.mp hn).2 hs hdest hk hj he

end

/-! ## load plans -/

theorem joinedBy_converted {ls : List (String × Lookup)} {sites : List (Table × String)}
    {names : List String} (hs : Extender.sitesOf catalog model ls = .ok sites)
    (hl : names.length = sites.length) :
    List.Forall₂ (fun x j => x.2.JoinedBy x.1 model j) ls
      ((Extender.converted model.name sites names).map Prod.snd) := by
  have hf : List.Forall₂ (fun x site => x.2.resolve x.1 catalog model = .ok site) ls sites :=
    mapM_eq_ok.mp hs
  have hz : (sites.zip names).map Prod.fst = sites := List.map_fst_zip (by omega)
  rw [← hz, List.forall₂_map_right_iff] at hf
  rw [Extender.converted, List.map_map, List.forall₂_map_right_iff]
  refine hf.imp fun x p hx => ?_
  obtain ⟨ht, hk⟩ := Lookup.resolve_eq_ok.mp hx
  exact ⟨Catalog.name_of_table ht, _, hk, rfl⟩

theorem laysOut_planOf (settings : QuerySettings) {sites : List (Table × String)}
    {added : List Expr × List Join}
    (hs : Extender.sitesOf catalog model s.insertLookups = .ok sites)
    (ha : Extender.recordTypeConversion s catalog model = .ok added) :
    s.LaysOut model
      ((Extender.converted model.name sites (joinNames model sites.length)).map Prod.snd) added.2
      (s.planOf model settings sites added) := by
  have hcolumns : (Extender.converted model.name sites (joinNames model sites.length)).map
      Prod.fst = ((Extender.converted model.name sites (joinNames model sites.length)).map
        Prod.snd).map fun j => .column j.table.name orgIdColumn := by
    rw [Extender.converted, List.map_map, List.map_map, List.map_map]
    rfl
  have htypes : added.1 = (if s.hasField recordTypeField then
      [.column s.destinationRecordTypes recordTypeIdColumn] else []) ∧
      added.2 = match s.fields.get? recordTypeField with
        | none => []
        | some column => Extender.recordTypeJoins s.sourceRecordTypes s.destinationRecordTypes
            model.name column := by
    rcases Extender.recordTypeConversion_eq_ok.mp ha with ⟨hf, rfl⟩ | ⟨column, hf, _, _, _, rfl⟩
    · rw [hf, not_hasField_of_get? hf]
      exact ⟨rfl, rfl⟩
    · rw [hf, hasField_of_get? hf]
      exact ⟨rfl, rfl⟩
  refine ⟨rfl, ?_, rfl, joinedBy_converted hs (length_joinNames model _), htypes.2, rfl⟩
  rw [← hcolumns, ← htypes.1, ← s.directColumns_eq]
  rfl

/-- **The layout of a load plan**: the source, the columns and the joins are in the order of the
step, and the `k`-th lookup has the `k`-th join and the `k`-th of the columns for lookups, whose
name is borne by no other column and no other join. -/
theorem loadPlan_laidOut (hp : (s.loadPlan catalog model settings).outcome = .ok plan) :
    ∃ lookups types, s.LaysOut model lookups types plan ∧
      ∀ k j, lookups[k]? = some j →
        plan.joins[k]? = some j ∧
        plan.NamesOne j.table.name k (1 + s.plainColumns.length + k) := by
  obtain ⟨_, sites, hs, added, ha, rfl⟩ := loadPlan_eq_ok.mp hp
  have hlength := length_joinNames model sites.length
  have hnames : ((Extender.converted model.name sites (joinNames model sites.length)).map
      Prod.snd).map (·.table.name) = joinNames model sites.length := by
    rw [List.map_map]
    exact Extender.names_converted hlength
  have hn := nodup_joinNames model sites.length
  have hd : ∀ name ∈ joinNames model sites.length,
      name ≠ s.sourceRecordTypes ∧ name ≠ s.destinationRecordTypes := by
    intro name hm
    refine ⟨?_, ?_⟩
    · rintro rfl
      exact derived_not_mem_joinNames (p := "_rt_mapping") (by decide) _ _ _ hm
    · rintro rfl
      exact derived_not_mem_joinNames (p := "_rt_target_mapping") (by decide) _ _ _ hm
  have hlaid := laysOut_planOf settings hs ha
  refine ⟨_, added.2, hlaid, fun k j hk => ⟨?_, ?_⟩⟩
  · have hlt := (List.getElem?_eq_some_iff.mp hk).1
    rw [hlaid.joins, List.getElem?_append_left hlt]
    exact hk
  · rw [← hnames] at hn hd
    exact hlaid.namesOne hn hd hk

/-- a staging table that is called like a joined one, two lookups into one table, of which one is
no field, one that is deferred between them, and a record type -/
theorem loadPlan_laidOut_numbered_model :
    let s : Step := {
      object := "Contact"
      table := some "t1"
      fields := Roster.ofList [("RecordTypeId", "type"), ("AccountId", "AccountId"),
        ("Id", "none"), ("LastName", "last")]
      lookups := Roster.ofList [("AccountId", { table := "Account" }),
        ("ReportsToId", { table := "Contact", after := true }),
        ("OwnerId", { table := "Account" })] }
    let model := ((Table.named "t1").markKey "key").addColumns
      ["last", "type", "AccountId", "owner_id"]
    let catalog := ({} : Catalog).addAll [.idMapping "Account",
      .recordTypeMapping "Contact_rt_mapping", .recordTypeMapping "Contact_rt_target_mapping"]
    ∃ plan lookups types, (s.loadPlan catalog model {}).outcome = .ok plan ∧
      s.LaysOut model lookups types plan ∧
      plan.columns = [.column "t1" "key", .column "t1" "last", .column "t2" "sf_id",
        .column "t3" "sf_id", .column "Contact_rt_target_mapping" "record_type_id"] ∧
      plan.NamesOne "t3" 1 3 := by
  intro s model catalog
  have hc : (s.loadPlan catalog model {}).outcome.toOption.map
      (fun plan => (plan.columns, plan.joins.map (·.table.name))) =
        some ([.column "t1" "key", .column "t1" "last", .column "t2" "sf_id",
          .column "t3" "sf_id", .column "Contact_rt_target_mapping" "record_type_id"],
          ["t2", "t3", "Contact_rt_mapping", "Contact_rt_target_mapping"]) := by
    decide +kernel
  obtain ⟨plan, hp, hc⟩ := toOption_map_eq_some.mp hc
  obtain ⟨hcolumns, hnames⟩ := Prod.mk.inj hc
  obtain ⟨lookups, types, hlaid, hplaces⟩ := loadPlan_laidOut hp
  have hl : lookups.length = 2 := hlaid.lookups.length_eq.symm
  have hk : lookups[1]? = some lookups[1] := List.getElem?_eq_getElem (by omega)
  obtain ⟨hj, hone⟩ := hplaces 1 _ hk
  have hname : (plan.joins.map (·.table.name))[1]? = some lookups[1].table.name := by
    rw [List.getElem?_map, hj]
    rfl
  rw [hnames] at hname
  have he : "t3" = lookups[1].table.name := Option.some.inj hname
  rw [← he] at hone
  exact ⟨plan, lookups, types, hp, hlaid, hcolumns, hone⟩

end Step

end StagedLoad
