import StagedLoad.Proofs.Query.Meaning
import StagedLoad.Proofs.Query.Scope

/-!
# Rows with converted lookups

The joins of a load plan that convert lookups neither drop nor multiply the rows of the staging
table, whatever the names of the tables are: a joined table has a name that no other table of the
query has, so its condition reads the staging row and the row that is joined, and a value refers
to one row of ids at most where no id is there twice.  The column of each lookup is the id that
the org gave to the row that the value refers to, and NULL where it refers to none
(`loadPlan_converts_lookups`).
-/

namespace StagedLoad

/-- what a value is converted to by a table of ids -/
inductive Converts (ids : List Row) (value : Option String) : Option String → Prop
  | found {row : Row} {id : String} (mem : row ∈ ids) (refers : value = some id)
    (has_id : row idColumn = some id) : Converts ids value (row orgIdColumn)
  | notFound (none_refers : ∀ row ∈ ids, ∀ id, value = some id → row idColumn ≠ some id) :
    Converts ids value none

/-- whether a value refers to a row of ids; NULL refers to none, and nothing refers to NULL -/
def refersTo (value : Option String) (ids : Row) : Bool :=
  value.any fun id => decide (ids idColumn = some id)

theorem refersTo_iff {value : Option String} {ids : Row} :
    refersTo value ids = true ↔ ∃ id, value = some id ∧ ids idColumn = some id := by
  rw [refersTo, Option.any_eq_true]
  simp only [decide_eq_true_eq]

namespace Engine
variable {E : Engine} {db : Database}

/-! ## one lookup -/

theorem holds_conversion {scope : Scope} {idTable name model key : String} {row ids : Row}
    (hm : scope.row model = .ok row) (hi : scope.row name = .ok ids) :
    E.holds scope (Lookup.conversion idTable name model key).2.condition =
      .ok (refersTo (row key) ids) := by
  have hc : E.eval scope (.castText (.column model key)) = .ok ((row key).map .text) := by
    rw [eval, eval_column hm, ok_bind]
    cases row key <;> rfl
  exact holds_eq (eval_column hi) hc

theorem exists_joined_conversion {scope : Scope} {idTable name model key : String} {row : Row}
    (hn : ((scope.beside name Row.nulls).map Prod.fst).Nodup) (hm : (model, row) ∈ scope)
    (hu : ((db idTable).filterMap fun ids => ids idColumn).Nodup) :
    ∃ ids, E.joined db (Lookup.conversion idTable name model key).2 scope =
        .ok [scope.beside name ids] ∧
      Converts (db idTable) (row key) (ids orgIdColumn) := by
  -- the names do not depend on the row that is tried
  have hnames : ∀ ids, ((scope.beside name ids).map Prod.fst).Nodup := by
    intro ids
    rw [Scope.beside, List.map_append] at hn ⊢
    exact hn
  have hp : ∀ ids ∈ db idTable, E.holds (scope.beside name ids)
      (Lookup.conversion idTable name model key).2.condition = .ok (refersTo (row key) ids) := by
    intro ids _
    have hm' : (model, row) ∈ scope.beside name ids := List.mem_append_left _ hm
    have hi' : (name, ids) ∈ scope.beside name ids :=
      List.mem_append_right _ (List.mem_singleton_self _)
    exact holds_conversion (Scope.row_of_mem (hnames ids) hm') (Scope.row_of_mem (hnames ids) hi')
  by_cases hf : ∃ ids ∈ db idTable, refersTo (row key) ids = true
  · obtain ⟨ids, hids, hr⟩ := hf
    obtain ⟨id, hk, hi⟩ := refersTo_iff.mp hr
    have hl : (db idTable).filter (refersTo (row key)) = [ids] := by
      rw [hk]
      exact filter_key_eq hu hids hi
    have hj := joined_eq (j := (Lookup.conversion idTable name model key).2) hp hl
    exact ⟨ids, hj, .found hids hk hi⟩
  · have hl : (db idTable).filter (refersTo (row key)) = [] := by
      rw [List.filter_eq_nil_iff]
      exact fun ids hids hr => hf ⟨ids, hids, hr⟩
    have hj := joined_eq (j := (Lookup.conversion idTable name model key).2) hp hl
    exact ⟨Row.nulls, hj, .notFound fun ids hids id hk hi =>
      hf ⟨ids, hids, refersTo_iff.mpr ⟨id, hk, hi⟩⟩⟩

/-! ## all lookups -/

/-- the join of a site, the table of ids with the column of the values, under its name -/
def joinOf (model : String) (p : (Table × String) × String) : Join :=
  (Lookup.conversion p.1.1.name p.2 model p.1.2).2

/-- the scope of a staging row with the rows that the sites have for its values beside it -/
def ConvertedIn (db : Database) (model : String) (sites : List ((Table × String) × String))
    (row : Row) (scope : Scope) : Prop :=
  ∃ beside : List (String × Row), scope = (model, row) :: beside ∧
    List.Forall₂ (fun p b => b.1 = p.2 ∧ Converts (db p.1.1.name) (row p.1.2) (b.2 orgIdColumn))
      sites beside

theorem ConvertedIn.names {model : String} {sites : List ((Table × String) × String)} {row : Row}
    {scope : Scope} (h : ConvertedIn db model sites row scope) :
    scope.map Prod.fst = model :: sites.map Prod.snd := by
  obtain ⟨beside, rfl, hb⟩ := h
  have hn : beside.map Prod.fst = sites.map Prod.snd :=
    (map_eq_map_iff_forall₂.mpr (hb.imp fun _ _ h => h.1.symm)).symm
  rw [List.map_cons, hn]

theorem ConvertedIn.exists_joined {model : String} {sites : List ((Table × String) × String)}
    {p : (Table × String) × String} (hn : (model :: (sites ++ [p]).map Prod.snd).Nodup)
    (hu : ((db p.1.1.name).filterMap fun ids => ids idColumn).Nodup) {row : Row} {scope : Scope}
    (h : ConvertedIn db model sites row scope) :
    ∃ scope', E.joined db (joinOf model p) scope = .ok [scope'] ∧
      ConvertedIn db model (sites ++ [p]) row scope' := by
  have hn' : ((scope.beside p.2 Row.nulls).map Prod.fst).Nodup := by
    rw [Scope.beside, List.map_append, h.names]
    rw [List.map_append] at hn
    exact hn
  obtain ⟨beside, rfl, hb⟩ := h
  obtain ⟨ids, hj, hc⟩ := exists_joined_conversion (E := E) hn' (List.mem_cons_self ..) hu
  exact ⟨_, hj, beside ++ [(p.2, ids)], rfl, List.rel_append hb (.cons ⟨rfl, hc⟩ .nil)⟩

/-- **The joins of lookups put one row of ids for each lookup beside every row.** -/
theorem exists_joinedAll_conversions {model : String}
    {before sites : List ((Table × String) × String)}
    (hn : (model :: (before ++ sites).map Prod.snd).Nodup)
    (hu : ∀ p ∈ sites, ((db p.1.1.name).filterMap fun ids => ids idColumn).Nodup)
    {rows : List Row} {scopes : List Scope}
    (h : List.Forall₂ (ConvertedIn db model before) rows scopes) :
    ∃ scopes', E.joinedAll db (sites.map (joinOf model)) scopes = .ok scopes' ∧
      List.Forall₂ (ConvertedIn db model (before ++ sites)) rows scopes' := by
  -- with every join one more site has its row beside all staging rows
  induction sites generalizing before scopes with
  | nil =>
    rw [List.append_nil]
    exact ⟨scopes, rfl, h⟩
  | cons p sites ih =>
    rw [List.forall_mem_cons] at hu
    rw [List.append_cons] at hn ⊢
    have hn' : (model :: (before ++ [p]).map Prod.snd).Nodup := by
      rw [List.map_append, ← List.cons_append] at hn
      exact (List.nodup_append.mp hn).1
    obtain ⟨scopes', hj, h'⟩ := exists_joinedAll_cons (E := E) (j := joinOf model p)
      (fun _ _ hs => hs.exists_joined hn' hu.1) (sites.map (joinOf model)) h
    rw [List.map_cons, hj]
    exact ih hn hu.2 h'

end Engine

/-! ## load plans -/

/-- in the scope of a staging row the columns of the staging table are those of the row, and the
expressions for the lookups of a step are what its values are converted to; the column of a value
is the best guess that the table has (`Lookup.keyFieldIn_eq_ok_iff`) -/
structure Step.ConvertsLookups (s : Step) (model : Table) (E : Engine) (db : Database)
    (converted : List Expr) (row : Row) (scope : Scope) : Prop where
  staged : ∀ column, E.eval scope (.column model.name column) = .ok ((row column).map .text)
  lookups : List.Forall₂ (fun x e => ∃ key value, x.2.keyFieldIn x.1 model = .ok key ∧
    E.eval scope e = .ok (value.map .text) ∧
    Converts (db (idTableName x.2.table)) (row key) value) s.insertLookups converted

namespace Step
variable {s : Step} {catalog : Catalog} {model : Table} {settings : QuerySettings} {plan : Plan}

theorem exists_named (hp : (s.loadPlan catalog model settings).outcome = .ok plan) :
    ∃ named added, Extender.recordTypeConversion s catalog model = .ok added ∧
      List.Forall₂ (fun x p => p.1.1.name = idTableName x.2.table ∧
        x.2.keyFieldIn x.1 model = .ok p.1.2) s.insertLookups named ∧
      (model.name :: named.map Prod.snd).Nodup ∧ plan.source = .plain model.name ∧
      plan.columns = (model.rowId :: Plan.directColumns s).map (.column model.name) ++
        named.map (fun p => .column p.2 orgIdColumn) ++ added.1 ∧
      plan.joins = named.map (Engine.joinOf model.name) ++ added.2 := by
  obtain ⟨_, sites, hs, added, ha, rfl⟩ := loadPlan_eq_ok.mp hp
  have hl : (joinNames model sites.length).length = sites.length := length_joinNames _ _
  have hfst : (sites.zip (joinNames model sites.length)).map Prod.fst = sites :=
    List.map_fst_zip (by omega)
  have hsnd : (sites.zip (joinNames model sites.length)).map Prod.snd =
      joinNames model sites.length := List.map_snd_zip (by omega)
  refine ⟨sites.zip (joinNames model sites.length), added, ha, ?_, ?_, rfl, ?_, ?_⟩
  · have hf : List.Forall₂ (fun x site => x.2.resolve x.1 catalog model = .ok site)
        s.insertLookups sites := mapM_eq_ok.mp hs
    rw [← hfst, List.forall₂_map_right_iff] at hf
    refine hf.imp fun x p hx => ?_
    obtain ⟨ht, hk⟩ := Lookup.resolve_eq_ok.mp hx
    exact ⟨Catalog.name_of_table ht, hk⟩
  · rw [hsnd]
    exact nodup_joinNames model sites.length
  · show _ ++ (Extender.converted _ _ _).map Prod.fst ++ _ = _
    rw [Extender.converted, List.map_map]
    rfl
  · show (Extender.converted _ _ _).map Prod.snd ++ _ = _
    rw [Extender.converted, List.map_map]
    rfl

theorem convertsLookups_of_convertedIn {E : Engine} {db : Database}
    {named : List ((Table × String) × String)}
    (hl : List.Forall₂ (fun x p => p.1.1.name = idTableName x.2.table ∧
      x.2.keyFieldIn x.1 model = .ok p.1.2) s.insertLookups named)
    (hn : (model.name :: named.map Prod.snd).Nodup) {row : Row} {scope : Scope}
    (h : Engine.ConvertedIn db model.name named row scope) :
    s.ConvertsLookups model E db (named.map fun p => .column p.2 orgIdColumn) row scope := by
  have hd : (scope.map Prod.fst).Nodup := by
    rw [h.names]
    exact hn
  obtain ⟨beside, rfl, hb⟩ := h
  have hs : ∀ column, E.eval ((model.name, row) :: beside) (.column model.name column) =
      .ok ((row column).map .text) :=
    fun _ => Engine.eval_column (Scope.row_of_mem hd (List.mem_cons_self ..))
  have hv : ∀ p ∈ named, ∃ value,
      E.eval ((model.name, row) :: beside) (.column p.2 orgIdColumn) = .ok (value.map .text) ∧
        Converts (db p.1.1.name) (row p.1.2) value := by
    intro p hp
    obtain ⟨b, hm, he, hc⟩ := exists_of_mem_right (List.Forall₂.flip hb) hp
    have hr : Scope.row ((model.name, row) :: beside) b.1 = .ok b.2 :=
      Scope.row_of_mem hd (List.mem_cons_of_mem _ hm)
    rw [he] at hr
    exact ⟨b.2 orgIdColumn, Engine.eval_column hr, hc⟩
  refine ⟨hs, ?_⟩
  rw [List.forall₂_map_right_iff]
  have hlv := (List.forall₂_and_left named s.insertLookups).mpr ⟨hv, List.Forall₂.flip hl⟩
  refine List.Forall₂.flip (hlv.imp fun p x h => ?_)
  obtain ⟨⟨value, he, hc⟩, ht, hk⟩ := h
  rw [ht] at hc
  exact ⟨p.1.2, value, hk, he, hc⟩

/-- **The joins of a load plan keep every staging row once, and its lookups are converted by the
tables of ids of the objects they refer to.**  No id may be in such a table twice; rows without an
id may. -/
theorem loadPlan_converts_lookups (hr : recordTypeField ∉ s.fields.keys)
    (hp : (s.loadPlan catalog model settings).outcome = .ok plan) (E : Engine) (db : Database)
    (hu : ∀ x ∈ s.insertLookups,
      ((db (idTableName x.2.table)).filterMap fun ids => ids idColumn).Nodup) :
    ∃ converted scopes,
      plan.columns =
        (model.rowId :: Plan.directColumns s).map (.column model.name) ++ converted ∧
      E.scopes db plan = .ok scopes ∧
      List.Forall₂ (s.ConvertsLookups model E db converted) (db model.name) scopes := by
  obtain ⟨named, added, ha, hl, hn, hsource, hcolumns, hjoins⟩ := exists_named hp
  obtain rfl : added = ([], []) := by
    rcases Extender.recordTypeConversion_eq_ok.mp ha with ⟨_, h⟩ | ⟨column, hc, _⟩
    · exact h
    · rw [(Keyed.get?_eq_none_iff _ _).mpr hr] at hc
      cases hc
  rw [List.append_nil] at hcolumns hjoins
  have hu' : ∀ p ∈ named, ((db p.1.1.name).filterMap fun ids => ids idColumn).Nodup := by
    intro p hm
    obtain ⟨x, hx, ht, _⟩ := exists_of_mem_right hl hm
    rw [ht]
    exact hu x hx
  have hstart : List.Forall₂ (Engine.ConvertedIn db model.name []) (db model.name)
      ((db model.name).map fun row => [(model.name, row)]) := by
    rw [List.forall₂_map_right_iff, List.forall₂_same]
    exact fun row _ => ⟨[], rfl, .nil⟩
  obtain ⟨scopes, hj, hs⟩ := Engine.exists_joinedAll_conversions (E := E) hn hu' hstart
  refine ⟨_, scopes, hcolumns, ?_, hs.imp fun row scope h => convertsLookups_of_convertedIn hl hn h⟩
  rw [Engine.scopes, hjoins, hsource]
  exact hj

/-- two lookups into one table, a staging table that is called like a joined one, and values that
refer to nothing -/
theorem loadPlan_converts_lookups_numbered_model :
    let s : Step := {
      object := "Contact"
      table := some "t1"
      lookups := Roster.ofList [("AccountId", { table := "Account" }),
        ("ReportsToId", { table := "Contact" }), ("BillingId", { table := "Account" })] }
    let model := ((Table.named "t1").markKey "id").addColumns
      ["AccountId", "ReportsToId", "BillingId"]
    let catalog := ({} : Catalog).addAll [.idMapping "Account", .idMapping "Contact"]
    let rows := fun cells : List (List (String × String)) =>
      cells.map fun row column => row.lookup column
    let db : Database := fun table =>
      if table = "t1" then rows [[("id", "1"), ("AccountId", "7"), ("BillingId", "9")],
        [("id", "2"), ("ReportsToId", "1"), ("AccountId", "8")], [("id", "3")]]
      else if table = "Account_sf_ids" then rows [[("id", "7"), ("sf_id", "a7")],
        [("sf_id", "a0")], [("id", "8")], [("sf_id", "a1")]]
      else rows [[("id", "1"), ("sf_id", "c1")]]
    let E : Engine := { lower := id, raw := fun _ _ => none }
    ∃ plan converted scopes, (s.loadPlan catalog model {}).outcome = .ok plan ∧
      converted = [.column "t2" "sf_id", .column "t3" "sf_id", .column "t4" "sf_id"] ∧
      plan.columns = .column "t1" "id" :: converted ∧ E.scopes db plan = .ok scopes ∧
      scopes.length = 3 ∧
      List.Forall₂ (s.ConvertsLookups model E db converted) (db "t1") scopes := by
  intro s model catalog rows db E
  have hc : (s.loadPlan catalog model {}).outcome.toOption.map Plan.columns = some
      [.column "t1" "id", .column "t2" "sf_id", .column "t3" "sf_id", .column "t4" "sf_id"] := by
    decide +kernel
  obtain ⟨plan, hp, hc⟩ := toOption_map_eq_some.mp hc
  obtain ⟨converted, scopes, hcolumns, hscopes, hs⟩ :=
    loadPlan_converts_lookups (by decide) hp E db (by decide +kernel)
  have he := List.append_cancel_left (hcolumns.symm.trans hc)
  exact ⟨plan, converted, scopes, hp, he, hcolumns, hscopes, hs.length_eq.symm, hs⟩

end Step

end StagedLoad
