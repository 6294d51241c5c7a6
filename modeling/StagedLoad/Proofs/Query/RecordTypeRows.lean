import StagedLoad.Proofs.Query.Layout
import StagedLoad.Proofs.Query.Meaning
import StagedLoad.Proofs.Staging.DerivedNames

/-!
# Rows with converted record types

A record type is converted by two joins.  The first finds the record type of the source org by its
id, which no two of them share; the second finds those of the destination org that have its
developer name, and a developer name is no key.  So a staging row is read once for every record
type of the destination that it is converted to, and once where there is none
(`recordTypes_rows`): a developer name that the destination has twice multiplies rows.
-/

namespace StagedLoad

/-! ## rows with a value -/

namespace Row

def orNulls (found : List Row) : List Row := if found.isEmpty then [nulls] else found

/-- the rows that a left outer join puts beside a value of a column -/
def partners (column : String) (value : Option String) (rows : List Row) : List Row :=
  orNulls (rows.filter (bears column value))

theorem length_orNulls (found : List Row) : (orNulls found).length = max 1 found.length := by
  cases found with
  | nil => rfl
  | cons row rows =>
    show rows.length + 1 = max 1 (rows.length + 1)
    omega

theorem filter_bears_none (column : String) (rows : List Row) :
    rows.filter (bears column none) = [] := by
  rw [List.filter_eq_nil_iff]
  intro row _ h
  cases h

theorem filter_bears_eq {column : String} {rows : List Row}
    (hu : (rows.filterMap fun row => row column).Nodup) (value : Option String) :
    rows.filter (bears column value) = [] ∨ ∃ row, rows.filter (bears column value) = [row] := by
  by_cases hf : ∃ row ∈ rows, row.bears column value = true
  · obtain ⟨row, hm, hb⟩ := hf
    obtain ⟨v, rfl, hv⟩ := bears_iff.mp hb
    exact Or.inr ⟨row, filter_key_eq hu hm hv⟩
  · left
    rw [List.filter_eq_nil_iff]
    exact fun row hm hb => hf ⟨row, hm, hb⟩

end Row

/-! ## the record types for a row -/

namespace Step
variable {s : Step} {db : Database}

/-- the record types of the destination that an id is converted to: those with the developer name
of a record type of the source that has the id -/
def destinationTypes (s : Step) (db : Database) (id : Option String) : List Row :=
  (db s.destinationRecordTypes).filter fun t =>
    (db s.sourceRecordTypes).any fun u =>
      u.bears recordTypeIdColumn id && t.bears developerNameColumn (u developerNameColumn)

theorem exists_source
    (hu : ((db s.sourceRecordTypes).filterMap fun t => t recordTypeIdColumn).Nodup)
    (id : Option String) :
    ∃ u, Row.partners recordTypeIdColumn id (db s.sourceRecordTypes) = [u] ∧
      s.destinationTypes db id = (db s.destinationRecordTypes).filter
        (Row.bears developerNameColumn (u developerNameColumn)) := by
  have ht : s.destinationTypes db id = (db s.destinationRecordTypes).filter fun t =>
      ((db s.sourceRecordTypes).filter (Row.bears recordTypeIdColumn id)).any fun u =>
        t.bears developerNameColumn (u developerNameColumn) := by
    rw [destinationTypes]
    simp only [List.any_filter]
  rcases Row.filter_bears_eq hu id with hf | ⟨u, hf⟩
  · refine ⟨Row.nulls, ?_, ?_⟩
    · rw [Row.partners, hf]
      rfl
    · show _ = List.filter (Row.bears developerNameColumn none) _
      rw [ht, hf, Row.filter_bears_none]
      simp
  · refine ⟨u, ?_, ?_⟩
    · rw [Row.partners, hf]
      rfl
    · rw [ht, hf]
      simp

theorem length_destinationTypes_le
    (hu : ((db s.sourceRecordTypes).filterMap fun t => t recordTypeIdColumn).Nodup)
    (hd : ((db s.destinationRecordTypes).filterMap fun t => t developerNameColumn).Nodup)
    (id : Option String) : (s.destinationTypes db id).length ≤ 1 := by
  obtain ⟨u, _, ht⟩ := exists_source hu id
  rw [ht]
  rcases Row.filter_bears_eq hd (u developerNameColumn) with hf | ⟨t, hf⟩
  · rw [hf]
    exact Nat.zero_le 1
  · rw [hf]
    exact Nat.le_refl 1

end Step

/-! ## the joins -/

namespace Engine
variable {E : Engine} {db : Database}

theorem joined_columns {scope : Scope} {table name column column' : String} {row : Row}
    (hn : (scope.map Prod.fst ++ [table]).Nodup) (hm : (name, row) ∈ scope) :
    E.joined db { table := .plain table
                  condition := .eq (.column table column) (.column name column') } scope =
      .ok ((Row.partners column (row column') (db table)).map (scope.beside table)) := by
  refine joined_eq (p := Row.bears column (row column')) ?_ rfl
  intro found _
  have hn' : ((scope.beside table found).map Prod.fst).Nodup := by
    rw [Scope.beside, List.map_append]
    exact hn
  have hf : (table, found) ∈ scope.beside table found :=
    List.mem_append_right _ (List.mem_singleton_self _)
  have hm' : (name, row) ∈ scope.beside table found := List.mem_append_left _ hm
  exact holds_eq (eval_column (Scope.row_of_mem hn' hf)) (eval_column (Scope.row_of_mem hn' hm'))

/-- a staging row with the record types of the source that have its id, each with those of the
destination that have its developer name -/
def typeScopes (db : Database) (source destination model column : String) (row : Row) :
    List Scope :=
  (Row.partners recordTypeIdColumn (row column) (db source)).flatMap fun u =>
    (Row.partners developerNameColumn (u developerNameColumn) (db destination)).map fun t =>
      [(model, row), (source, u), (destination, t)]

theorem joinedAll_recordTypeJoins {source destination model column : String}
    (hn : [model, source, destination].Nodup) (rows : List Row) :
    E.joinedAll db (Extender.recordTypeJoins source destination model column)
        (rows.map fun row => [(model, row)]) =
      .ok (rows.flatMap (typeScopes db source destination model column)) := by
  let byId : Join := {
    table := .plain source
    condition := .eq (.column source recordTypeIdColumn) (.column model column) }
  let byName : Join := {
    table := .plain destination
    condition :=
      .eq (.column destination developerNameColumn) (.column source developerNameColumn) }
  let staged : Row → Scope := fun row => [(model, row)]
  let sourced : Row × Row → Scope := fun p => [(model, p.1), (source, p.2)]
  let pairs : List (Row × Row) := rows.flatMap fun row =>
    (Row.partners recordTypeIdColumn (row column) (db source)).map fun u => (row, u)
  have hn' : [model, source].Nodup := hn.sublist (by simp)
  have hsource : ∀ row ∈ rows, E.joined db byId (staged row) =
      .ok ((Row.partners recordTypeIdColumn (row column) (db source)).map
        ((staged row).beside source)) := by
    intro row _
    exact joined_columns hn' (List.mem_singleton_self _)
  have hpairs : (rows.flatMap fun row =>
      (Row.partners recordTypeIdColumn (row column) (db source)).map
        ((staged row).beside source)) = pairs.map sourced := by
    simp only [pairs, List.map_flatMap, List.map_map]
    rfl
  have hdestination : ∀ p ∈ pairs, E.joined db byName (sourced p) =
      .ok ((Row.partners developerNameColumn (p.2 developerNameColumn) (db destination)).map
        ((sourced p).beside destination)) := by
    intro p _
    exact joined_columns hn (List.mem_cons_of_mem _ (List.mem_singleton_self _))
  show E.joinedAll db [byId, byName] (rows.map staged) = _
  rw [joinedAll_cons_map hsource, hpairs, joinedAll_cons_map hdestination, joinedAll]
  simp only [pairs, List.flatMap_assoc, List.flatMap_map]
  rfl

end Engine

/-! ## rows read once -/

theorem length_flatten_of_ne_nil {α : Type} {as : List (List α)} (h : ∀ a ∈ as, a ≠ []) :
    as.length ≤ as.flatten.length ∧ (as.flatten.length = as.length → ∀ a ∈ as, a.length = 1) := by
  induction as with
  | nil => exact ⟨Nat.le_refl 0, fun _ _ ha => nomatch ha⟩
  | cons a as ih =>
    rw [List.forall_mem_cons] at h
    obtain ⟨hle, hone⟩ := ih h.2
    have ha : 0 < a.length := List.length_pos_iff.mpr h.1
    rw [List.flatten_cons, List.length_append, List.length_cons, List.forall_mem_cons]
    refine ⟨by omega, fun hl => ⟨by omega, hone (by omega)⟩⟩

/-- items with the lists of what they are related to are related one to one to all these together
exactly when every list has one item -/
theorem forall₂_flatten_iff {α β : Type} {R : α → β → Prop} {as : List α} {bss : List (List β)}
    (h : List.Forall₂ (fun a bs => bs ≠ [] ∧ ∀ b ∈ bs, R a b) as bss) :
    List.Forall₂ R as bss.flatten ↔ ∀ bs ∈ bss, bs.length = 1 := by
  constructor
  · intro hr
    have hl : bss.flatten.length = bss.length := hr.length_eq.symm.trans h.length_eq
    have hpos : ∀ bs ∈ bss, bs ≠ [] := by
      intro bs hb
      obtain ⟨_, _, hn, _⟩ := exists_of_mem_right h hb
      exact hn
    exact (length_flatten_of_ne_nil hpos).2 hl
  · intro h1
    induction h with
    | nil => exact .nil
    | cons hr _ ih =>
      rw [List.forall_mem_cons] at h1
      obtain ⟨b, rfl⟩ := List.length_eq_one_iff.mp h1.1
      exact .cons (hr.2 b (List.mem_singleton_self b)) (ih h1.2)

/-- there is one scope for each staging row, in the order of the rows -/
def Scope.OncePerRow (model : String) (rows : List Row) (scopes : List Scope) : Prop :=
  List.Forall₂ (fun row scope => scope.row model = .ok row) rows scopes

/-! ## extenders -/

namespace Step

/-- the scopes of a staging row: in each of them the expression for the record type is the id of
one of the record types that the row is converted to, and NULL when there is none -/
structure ConvertsRecordType (s : Step) (model : Table) (E : Engine) (db : Database)
    (column : String) (converted : Expr) (row : Row) (scopes : List Scope) : Prop where
  staged : ∀ scope ∈ scopes, scope.row model.name = .ok row
  types : List.Forall₂
    (fun t scope => E.eval scope converted = .ok ((t recordTypeIdColumn).map .text))
    (Row.orNulls (s.destinationTypes db (row column))) scopes

variable {s : Step} {catalog : Catalog} {model : Table} {extender : Extender}

theorem sourceRecordTypes_ne (s : Step) : s.sourceRecordTypes ≠ s.destinationRecordTypes := by
  intro h
  have hd : "_rt_mapping" = "_rt_target_mapping" :=
    (derived_inj (by simp [derivedEndings]) (by simp [derivedEndings]) h).1
  revert hd
  decide

theorem nodup_typeNames (hs : model.name ≠ s.sourceRecordTypes)
    (hd : model.name ≠ s.destinationRecordTypes) :
    [model.name, s.sourceRecordTypes, s.destinationRecordTypes].Nodup := by
  simp [hs, hd, sourceRecordTypes_ne]

theorem convertsRecordType_typeScopes (hs : model.name ≠ s.sourceRecordTypes)
    (hd : model.name ≠ s.destinationRecordTypes) (E : Engine) {db : Database}
    (hu : ((db s.sourceRecordTypes).filterMap fun t => t recordTypeIdColumn).Nodup)
    (column : String) (row : Row) :
    s.ConvertsRecordType model E db column (.column s.destinationRecordTypes recordTypeIdColumn)
      row (Engine.typeScopes db s.sourceRecordTypes s.destinationRecordTypes model.name column
        row) := by
  have hn := nodup_typeNames hs hd
  obtain ⟨u, hp, ht⟩ := exists_source hu (row column)
  have he : Engine.typeScopes db s.sourceRecordTypes s.destinationRecordTypes model.name column
      row = (Row.orNulls (s.destinationTypes db (row column))).map fun t =>
        [(model.name, row), (s.sourceRecordTypes, u), (s.destinationRecordTypes, t)] := by
    rw [Engine.typeScopes, hp, List.flatMap_singleton, ht]
    rfl
  rw [he]
  refine ⟨?_, ?_⟩
  · intro scope hm
    obtain ⟨t, _, rfl⟩ := List.mem_map.mp hm
    exact Scope.row_of_mem hn (List.mem_cons_self ..)
  · rw [List.forall₂_map_right_iff, List.forall₂_same]
    intro t _
    have hm : (s.destinationRecordTypes, t) ∈
        [(model.name, row), (s.sourceRecordTypes, u), (s.destinationRecordTypes, t)] := by simp
    exact Engine.eval_column (Scope.row_of_mem hn hm)

theorem ConvertsRecordType.length_eq {E : Engine} {db : Database} {column : String}
    {converted : Expr} {row : Row} {scopes : List Scope}
    (h : s.ConvertsRecordType model E db column converted row scopes) :
    scopes.length = max 1 (s.destinationTypes db (row column)).length := by
  rw [← Row.length_orNulls]
  exact h.types.length_eq.symm

theorem oncePerRow_iff {E : Engine} {db : Database} {column : String} {converted : Expr}
    {rows : List Row} {scopes : List (List Scope)}
    (h : List.Forall₂ (s.ConvertsRecordType model E db column converted) rows scopes) :
    Scope.OncePerRow model.name rows scopes.flatten ↔
      ∀ row ∈ rows, (s.destinationTypes db (row column)).length ≤ 1 := by
  have hstaged : List.Forall₂ (fun row scopes => scopes ≠ [] ∧
      ∀ scope ∈ scopes, scope.row model.name = .ok row) rows scopes := by
    refine h.imp fun row group hg => ⟨?_, hg.staged⟩
    rw [← List.length_pos_iff, hg.length_eq]
    omega
  rw [Scope.OncePerRow, forall₂_flatten_iff hstaged]
  constructor
  · intro hone row hr
    obtain ⟨group, hm, hg⟩ := exists_of_mem_right (List.Forall₂.flip h) hr
    have hl : group.length = 1 := hone group hm
    rw [hg.length_eq] at hl
    omega
  · intro hone group hm
    obtain ⟨row, hr, hg⟩ := exists_of_mem_right h hm
    have hl := hone row hr
    rw [hg.length_eq]
    omega

/-- **A staging row is read once for each record type of the destination that its record type is
converted to, and once where there is none.**  So all rows are read once exactly when no row is
converted to two record types, as it is where the destination has no developer name twice. -/
theorem recordTypes_rows (hf : s.hasField recordTypeField = true)
    (hx : Extender.recordTypes s catalog model = .ok extender)
    (hs : model.name ≠ s.sourceRecordTypes) (hd : model.name ≠ s.destinationRecordTypes)
    (E : Engine) (db : Database)
    (hu : ((db s.sourceRecordTypes).filterMap fun t => t recordTypeIdColumn).Nodup) :
    ∃ column converted scopes, s.fields.get? recordTypeField = some column ∧
      extender.columns = some [converted] ∧
      E.joinedAll db (extender.joins.getD [])
        ((db model.name).map fun row => [(model.name, row)]) = .ok scopes.flatten ∧
      List.Forall₂ (s.ConvertsRecordType model E db column converted) (db model.name) scopes ∧
      (Scope.OncePerRow model.name (db model.name) scopes.flatten ↔
        ∀ row ∈ db model.name, (s.destinationTypes db (row column)).length ≤ 1) ∧
      (((db s.destinationRecordTypes).filterMap fun t => t developerNameColumn).Nodup →
        Scope.OncePerRow model.name (db model.name) scopes.flatten) := by
  rw [Extender.recordTypes] at hx
  obtain ⟨added, ha, hx⟩ := bind_eq_ok.mp hx
  cases hx
  rcases Extender.recordTypeConversion_eq_ok.mp ha with ⟨hnone, _⟩ | ⟨column, hc, _, _, _, rfl⟩
  · have hmem : recordTypeField ∈ s.fields.keys := (s.fields.hasKey_iff _).mp hf
    exact absurd hmem ((Keyed.get?_eq_none_iff _ _).mp hnone)
  let scopesOf : Row → List Scope :=
    Engine.typeScopes db s.sourceRecordTypes s.destinationRecordTypes model.name column
  have hscopes : List.Forall₂ (s.ConvertsRecordType model E db column
      (.column s.destinationRecordTypes recordTypeIdColumn)) (db model.name)
        ((db model.name).map scopesOf) := by
    rw [List.forall₂_map_right_iff, List.forall₂_same]
    exact fun row _ => convertsRecordType_typeScopes hs hd E hu column row
  refine ⟨column, _, _, hc, rfl, ?_, hscopes, oncePerRow_iff hscopes, ?_⟩
  · exact Engine.joinedAll_recordTypeJoins (nodup_typeNames hs hd) (db model.name)
  · intro hnames
    exact (oncePerRow_iff hscopes).mpr
      fun row _ => length_destinationTypes_le hu hnames (row column)

/-- a record type of the destination that is there twice, but for no row, a row with an unknown
record type and one without -/
theorem recordTypes_rows_unused_twice :
    let s : Step := { object := "Account", fields := Roster.ofList [("RecordTypeId", "type")] }
    let model := ((Table.named "Account").markKey "id").addColumns ["type"]
    let catalog := Catalog.forLoad [s]
    let rows := fun cells : List (List (String × String)) =>
      cells.map fun row column => row.lookup column
    let db : Database := fun table =>
      if table = "Account" then rows [[("id", "1"), ("type", "s1")], [("id", "2"), ("type", "s9")],
        [("id", "3")], [("id", "4"), ("type", "s3")]]
      else if table = "Account_rt_mapping" then rows [[("record_type_id", "s1"),
        ("developer_name", "Partner")], [("record_type_id", "s2"), ("developer_name", "Old")],
        [("record_type_id", "s3")]]
      else rows [[("record_type_id", "d1"), ("developer_name", "Old")],
        [("record_type_id", "d2"), ("developer_name", "Partner")],
        [("record_type_id", "d3"), ("developer_name", "Old")], [("record_type_id", "d4")]]
    let E : Engine := { lower := id, raw := fun _ _ => none }
    ∃ extender scopes, Extender.recordTypes s catalog model = .ok extender ∧
      extender.columns = some [.column "Account_rt_target_mapping" "record_type_id"] ∧
      E.joinedAll db (extender.joins.getD []) ((db "Account").map fun row => [("Account", row)]) =
        .ok scopes ∧
      Scope.OncePerRow "Account" (db "Account") scopes := by
  intro s model catalog rows db E
  have hc : (Extender.recordTypes s catalog model).toOption.map Extender.columns =
      some (some [.column "Account_rt_target_mapping" "record_type_id"]) := by
    decide +kernel
  obtain ⟨extender, hx, hc⟩ := toOption_map_eq_some.mp hc
  obtain ⟨column, _, scopes, hcolumn, _, hj, _, honce, _⟩ :=
    recordTypes_rows (by decide +kernel) hx (by decide +kernel) (by decide +kernel) E db
      (by decide +kernel)
  obtain rfl : "type" = column := Option.some.inj hcolumn
  exact ⟨extender, scopes.flatten, hx, hc, hj, honce.mpr (by decide +kernel)⟩

/-- two record types of the destination with one developer name, and a staging table that is
called like the record types of the source -/
theorem not_oncePerRow_shared_developer_name :
    let s : Step := {
      object := "Account", fields := Roster.ofList [("RecordTypeId", "RecordTypeId")] }
    let model := ((Table.named "Account").markKey "id").addColumns ["RecordTypeId"]
    let t : Step := {
      object := "Account"
      table := some "Account_rt_mapping"
      fields := Roster.ofList [("RecordTypeId", "record_type_id")] }
    let catalog := Catalog.forLoad [s]
    let rows := fun cells : List (List (String × String)) =>
      cells.map fun row column => row.lookup column
    let db : Database := fun table =>
      if table = "Account" then rows [[("id", "1"), ("RecordTypeId", "s1")]]
      else if table = "Account_rt_mapping" then
        rows [[("record_type_id", "s1"), ("developer_name", "Partner")]]
      else rows [[("record_type_id", "d1"), ("developer_name", "Partner")],
        [("record_type_id", "d2"), ("developer_name", "Partner")]]
    let E : Engine := { lower := id, raw := fun _ _ => none }
    (∀ table, ((db table).filterMap fun type => type "record_type_id").Nodup) ∧
      (∃ extender scopes, Extender.recordTypes s catalog model = .ok extender ∧
        E.joinedAll db (extender.joins.getD [])
          ((db "Account").map fun row => [("Account", row)]) = .ok scopes ∧
        scopes.length = 2 ∧ ¬ Scope.OncePerRow "Account" (db "Account") scopes) ∧
      ∃ extender, Extender.recordTypes t catalog (.recordTypeMapping "Account_rt_mapping") =
          .ok extender ∧
        E.joinedAll db (extender.joins.getD [])
          ((db "Account_rt_mapping").map fun row => [("Account_rt_mapping", row)]) =
            .error (.ambiguousName "Account_rt_mapping") := by
  intro s model t catalog rows db E
  refine ⟨?_, ?_, ?_⟩
  · intro table
    show (List.filterMap _ (if _ then _ else if _ then _ else _)).Nodup
    split
    · decide +kernel
    · split <;> decide +kernel
  · have hj : (Extender.recordTypes s catalog model).toOption.map Extender.joins =
        some (some (Extender.recordTypeJoins "Account_rt_mapping" "Account_rt_target_mapping"
          "Account" "RecordTypeId")) := by
      decide +kernel
    obtain ⟨extender, hx, hj⟩ := toOption_map_eq_some.mp hj
    have hl : (E.joinedAll db (Extender.recordTypeJoins "Account_rt_mapping"
        "Account_rt_target_mapping" "Account" "RecordTypeId")
          ((db "Account").map fun row => [("Account", row)])).toOption.map List.length =
        some 2 := by
      decide +kernel
    obtain ⟨scopes, hs, hl⟩ := toOption_map_eq_some.mp hl
    refine ⟨extender, scopes, hx, ?_, hl, ?_⟩
    · rw [hj]
      exact hs
    · intro h
      have hone : (db "Account").length = scopes.length := h.length_eq
      rw [hl] at hone
      revert hone
      decide
  · have hj : (Extender.recordTypes t catalog
        (.recordTypeMapping "Account_rt_mapping")).toOption.map Extender.joins =
        some (some (Extender.recordTypeJoins "Account_rt_mapping" "Account_rt_target_mapping"
          "Account_rt_mapping" "record_type_id")) := by
      decide +kernel
    obtain ⟨extender, hx, hj⟩ := toOption_map_eq_some.mp hj
    refine ⟨extender, hx, ?_⟩
    rw [hj]
    rfl

end Step

end StagedLoad
