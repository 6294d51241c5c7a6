import StagedLoad.Proofs.Query.ExprReading
import StagedLoad.Proofs.Query.Layout

/-!
# Reading plans back from their SQL

A plan whose expressions are readable is read back from its SQL (`Plan.ofSql?_toSql`).  Every
clause begins on a line of its own with words that no other clause begins with, and nothing that
is written of a name, a text or an expression ends before its end.  So no two of these plans have
one text, and the plans that are composed for steps without conditions of their own are of this
kind (`toSql_injective`).
-/

namespace StagedLoad

open Text

/-- the text is at its end or goes on with a new line -/
def EndsLine (rest : List Char) : Prop := rest = [] ∨ ∃ r, rest = '\n' :: r

theorem EndsLine.closed {rest : List Char} (h : EndsLine rest) : Expr.Closed rest := by
  rcases h with rfl | ⟨r, rfl⟩
  · exact Expr.closed_nil
  · exact Expr.closed_cons (by decide) r

theorem EndsLine.after?_eq_none {rest : List Char} (h : EndsLine rest) {w : Char} (hw : w ≠ '\n')
    (ws : List Char) : after? (w :: ws) rest = none := by
  rcases h with rfl | ⟨r, rfl⟩
  · rfl
  · exact after?_cons_of_ne hw ..

/-! ## tables and joins -/

namespace TableRef

def chars (d : Dialect) (r : TableRef) : List Char := (r.toSql d).toList

def read : Reader TableRef := fun cs => do
  let (table, cs) ← Expr.readName cs
  match after? " AS ".toList cs with
  | some cs => (Expr.readName cs).map fun (name, cs) => ({ table := table, name := name }, cs)
  | none => some (.plain table, cs)

/-- what may follow a table: no quote and no name for it -/
structure Follows (rest : List Char) : Prop where
  unquoted : Expr.Unquoted rest
  unnamed : after? " AS ".toList rest = none

theorem chars_eq (d : Dialect) (r : TableRef) : r.chars d =
    if r.name = r.table then quotedChars '"' r.table.toList
    else quotedChars '"' r.table.toList ++ " AS ".toList ++ quotedChars '"' r.name.toList := by
  unfold chars toSql
  split <;> simp [Dialect.toList_quoteName]

theorem reads (d : Dialect) (r : TableRef) : Reads read Follows (r.chars d) r := by
  intro rest h
  rw [chars_eq, read]
  by_cases hn : r.name = r.table
  · have he : TableRef.plain r.table = r := by
      cases r
      cases hn
      rfl
    rw [if_pos hn, Expr.reads_name r.table rest h.unquoted]
    simp only [Option.bind_eq_bind, Option.bind_some, h.unnamed]
    rw [he]
  · have hs : Expr.Unquoted (" AS ".toList ++ (quotedChars '"' r.name.toList ++ rest)) :=
      Expr.unquoted_cons (by decide) _
    rw [if_neg hn, List.append_assoc, List.append_assoc, Expr.reads_name r.table _ hs]
    simp only [Option.bind_eq_bind, Option.bind_some, after?_append]
    rw [Expr.reads_name r.name rest h.unquoted]
    rfl

end TableRef

namespace Join

def chars (d : Dialect) (j : Join) : List Char := (j.toSql d).toList

theorem chars_eq (d : Dialect) (j : Join) : j.chars d =
    "\nLEFT OUTER JOIN ".toList ++ j.table.chars d ++ " ON ".toList ++ j.condition.chars d := by
  unfold chars toSql TableRef.chars Expr.chars
  rw [String.toList_append, String.toList_append, String.toList_append]

def read (d : Dialect) : Reader Join := fun cs => do
  let cs ← after? "\nLEFT OUTER JOIN ".toList cs
  let (table, cs) ← TableRef.read cs
  let cs ← after? " ON ".toList cs
  let (condition, cs) ← Expr.read d cs
  return ({ table := table, condition := condition }, cs)

theorem reads {d : Dialect} {j : Join} (h : j.condition.isReadable = true) :
    Reads (read d) Expr.Closed (j.chars d) j := by
  intro rest hr
  have hon : TableRef.Follows (" ON ".toList ++ (j.condition.chars d ++ rest)) :=
    ⟨Expr.unquoted_cons (by decide) _, rfl⟩
  rw [chars_eq, List.append_assoc, List.append_assoc, List.append_assoc, read, after?_append]
  simp only [Option.bind_eq_bind, Option.bind_some]
  rw [TableRef.reads d j.table _ hon]
  simp only [Option.bind_some, after?_append]
  rw [Expr.reads h rest hr]
  rfl

end Join

/-! ## plans -/

namespace Plan

def isReadable (p : Plan) : Bool :=
  p.columns.all Expr.isReadable && p.joins.all (·.condition.isReadable) &&
    p.filters.all Expr.isReadable && p.orderBy.all Expr.isReadable

def columnChars (d : Dialect) (es : List Expr) : List Char :=
  ", ".toList.intercalate (es.map (·.chars d))

def clauseChars (word separator : String) (d : Dialect) (es : List Expr) : List Char :=
  (clause word separator d es).toList

def chars (d : Dialect) (p : Plan) : List Char := (p.toSql d).toList

section
variable (d : Dialect)

theorem clauseChars_nil (word separator : String) : clauseChars word separator d [] = [] := rfl

theorem clauseChars_of_ne_nil (word separator : String) {es : List Expr} (h : es ≠ []) :
    clauseChars word separator d es = ("\n" ++ word ++ " ").toList ++
      separator.toList.intercalate (es.map (·.chars d)) := by
  have he : es.isEmpty = false := by
    rw [List.isEmpty_eq_false_iff]
    exact h
  rw [clauseChars, clause, he]
  simp [String.toList_intercalate, Function.comp_def, Expr.chars]

theorem endsLine_clauseChars (word separator : String) (es : List Expr) {rest : List Char}
    (h : EndsLine rest) : EndsLine (clauseChars word separator d es ++ rest) := by
  by_cases he : es = []
  · rw [he, clauseChars_nil]
    exact h
  · rw [clauseChars_of_ne_nil d word separator he]
    refine Or.inr ⟨(word ++ " ").toList ++
      (separator.toList.intercalate (es.map (·.chars d)) ++ rest), ?_⟩
    simp

theorem chars_eq (p : Plan) : p.chars d =
    "SELECT ".toList ++ (columnChars d p.columns ++ ("\nFROM ".toList ++ (p.source.chars d ++
      (p.joins.flatMap (·.chars d) ++ (clauseChars "WHERE" " AND " d p.filters ++
        clauseChars "ORDER BY" ", " d p.orderBy))))) := by
  simp [chars, toSql, columnChars, clauseChars, TableRef.chars, Join.chars, Expr.chars,
    String.toList_intercalate, String.toList_join, List.flatMap_map, Function.comp_def]

def readColumns : Reader (List Expr) := fun cs =>
  some ((separated ", ".toList (Expr.read d) cs).getD ([], cs))

def readClause (word separator : String) : Reader (List Expr) := fun cs =>
  match after? ("\n" ++ word ++ " ").toList cs with
  | some cs => separated separator.toList (Expr.read d) cs
  | none => some ([], cs)

def read : Reader Plan := fun cs => do
  let cs ← after? "SELECT ".toList cs
  let (columns, cs) ← readColumns d cs
  let cs ← after? "\nFROM ".toList cs
  let (source, cs) ← TableRef.read cs
  let (joins, cs) := many (Join.read d) cs
  let (filters, cs) ← readClause d "WHERE" " AND " cs
  let (orderBy, cs) ← readClause d "ORDER BY" ", " cs
  return ({ source, columns, joins, filters, orderBy }, cs)

def ofSql? (sql : String) : Option Plan := do
  let (p, rest) ← read d sql.toList
  if rest.isEmpty then some p else none

end

/-! ## the law -/

/-- a separator of expressions: it ends the one in front, and does not begin a line -/
structure Separates (separator : String) : Prop where
  ne_nil : separator.toList ≠ []
  closed : ∀ r, Expr.Closed (separator.toList ++ r)
  inLine : ∀ rest, EndsLine rest → after? separator.toList rest = none

theorem separates_comma : Separates ", " := by
  refine ⟨by decide, fun r => Expr.closed_cons (by decide) _, ?_⟩
  intro rest h
  exact h.after?_eq_none (by decide) _

theorem separates_and : Separates " AND " := by
  refine ⟨by decide, Expr.closed_and, ?_⟩
  intro rest h
  exact h.after?_eq_none (by decide) _

variable {d : Dialect}

theorem reads_list {separator : String} (hs : Separates separator) {es : List Expr}
    (he : ∀ e ∈ es, e.isReadable = true) (hne : es ≠ []) :
    Reads (separated separator.toList (Expr.read d)) EndsLine
      (separator.toList.intercalate (es.map (·.chars d))) es := by
  intro rest h
  have hi : ∀ e ∈ es, Reads (Expr.read d) Expr.Closed (e.chars d) e :=
    fun e hm => Expr.reads (he e hm)
  exact reads_separated hi hs.ne_nil hs.closed hne rest ⟨h.closed, hs.inLine rest h⟩

theorem reads_columns {es : List Expr} (he : ∀ e ∈ es, e.isReadable = true) :
    Reads (readColumns d) (fun rest => ∃ r, rest = '\n' :: r) (columnChars d es) es := by
  intro rest ⟨r, hr⟩
  have hi : ∀ e ∈ es, Reads (Expr.read d) Expr.Closed (e.chars d) e :=
    fun e hm => Expr.reads (he e hm)
  have hline : EndsLine rest := Or.inr ⟨r, hr⟩
  have hnone : Expr.read d rest = none := by
    rw [hr]
    rfl
  exact reads_listed hi separates_comma.ne_nil separates_comma.closed rest
    ⟨hline.closed, separates_comma.inLine rest hline, hnone⟩

theorem reads_clause (word : String) {separator : String} (hs : Separates separator)
    {es : List Expr} (he : ∀ e ∈ es, e.isReadable = true) :
    Reads (readClause d word separator)
      (fun rest => EndsLine rest ∧ after? ("\n" ++ word ++ " ").toList rest = none)
      (clauseChars word separator d es) es := by
  intro rest ⟨hr, hn⟩
  by_cases hne : es = []
  · rw [hne, clauseChars_nil, List.nil_append, readClause, hn]
  · rw [clauseChars_of_ne_nil d word separator hne, List.append_assoc, readClause, after?_append]
    exact reads_list hs he hne rest hr

theorem after?_clauseChars {opening rest : List Char} (word separator : String) (es : List Expr)
    (hw : ∀ r, after? opening (("\n" ++ word ++ " ").toList ++ r) = none)
    (hr : after? opening rest = none) :
    after? opening (clauseChars word separator d es ++ rest) = none := by
  by_cases hne : es = []
  · rw [hne, clauseChars_nil]
    exact hr
  · rw [clauseChars_of_ne_nil d word separator hne, List.append_assoc]
    exact hw _

theorem reads_joins {js : List Join} (hj : ∀ j ∈ js, j.condition.isReadable = true)
    {rest : List Char} (hr : EndsLine rest) (hn : after? "\nLEFT OUTER JOIN ".toList rest = none) :
    many (Join.read d) (js.flatMap (·.chars d) ++ rest) = (js, rest) := by
  have hi : ∀ j ∈ js, Reads (Join.read d) Expr.Closed (j.chars d) j :=
    fun j hm => Join.reads (hj j hm)
  have hnext : ∀ j ∈ js, ∀ r, Expr.Closed (j.chars d ++ r) := by
    intro j _ r
    rw [Join.chars_eq]
    exact Expr.closed_cons (c := '\n') (by decide) _
  have hne : ∀ j ∈ js, j.chars d ≠ [] := by
    intro j _
    rw [Join.chars_eq]
    exact List.cons_ne_nil _ _
  have hstop : Join.read d rest = none := by
    rw [Join.read, hn]
    rfl
  exact many_flatMap hi hnext hne hr.closed hstop

theorem read_chars {p : Plan} (h : p.isReadable = true) : read d (p.chars d) = some (p, []) := by
  simp only [isReadable, Bool.and_eq_true, List.all_eq_true] at h
  obtain ⟨⟨⟨hcolumns, hjoins⟩, hfilters⟩, horder⟩ := h
  -- what stands behind the filters, and behind the joins
  let order := clauseChars "ORDER BY" ", " d p.orderBy ++ []
  let clauses := clauseChars "WHERE" " AND " d p.filters ++ order
  have hlineOrder : EndsLine order := endsLine_clauseChars d _ _ p.orderBy (Or.inl rfl)
  have hlineClauses : EndsLine clauses := endsLine_clauseChars d _ _ p.filters hlineOrder
  have hnoWhere : after? ("\n" ++ "WHERE" ++ " ").toList order = none :=
    after?_clauseChars "ORDER BY" ", " p.orderBy (fun _ => rfl) rfl
  have hnoJoinOrder : after? "\nLEFT OUTER JOIN ".toList order = none :=
    after?_clauseChars "ORDER BY" ", " p.orderBy (fun _ => rfl) rfl
  have hnoJoin : after? "\nLEFT OUTER JOIN ".toList clauses = none :=
    after?_clauseChars "WHERE" " AND " p.filters (fun _ => rfl) hnoJoinOrder
  have hlineJoins : EndsLine (p.joins.flatMap (·.chars d) ++ clauses) := by
    cases hj : p.joins with
    | nil => exact hlineClauses
    | cons j js =>
      rw [List.flatMap_cons, Join.chars_eq]
      exact Or.inr ⟨_, rfl⟩
  have hsource : TableRef.Follows (p.joins.flatMap (·.chars d) ++ clauses) :=
    ⟨hlineJoins.closed.unquoted, hlineJoins.after?_eq_none (by decide) _⟩
  -- the parts one after the other
  have hc := reads_columns (d := d) hcolumns ("\nFROM ".toList ++ (p.source.chars d ++
    (p.joins.flatMap (·.chars d) ++ clauses))) ⟨_, rfl⟩
  have hs := TableRef.reads d p.source _ hsource
  have hj := reads_joins (d := d) hjoins hlineClauses hnoJoin
  have hf := reads_clause (d := d) "WHERE" separates_and hfilters order ⟨hlineOrder, hnoWhere⟩
  have ho := reads_clause (d := d) "ORDER BY" separates_comma horder [] ⟨Or.inl rfl, rfl⟩
  have hchars : p.chars d = "SELECT ".toList ++ (columnChars d p.columns ++ ("\nFROM ".toList ++
      (p.source.chars d ++ (p.joins.flatMap (·.chars d) ++ clauses)))) := by
    rw [chars_eq]
    simp only [clauses, order, List.append_nil]
  rw [hchars, read, after?_append]
  simp only [Option.bind_eq_bind, Option.bind_some]
  rw [hc]
  simp only [Option.bind_some, after?_append]
  rw [hs]
  simp only [Option.bind_some]
  rw [hj]
  dsimp only
  rw [hf]
  simp only [Option.bind_some]
  rw [ho]
  rfl

theorem ofSql?_toSql {p : Plan} (h : p.isReadable = true) : ofSql? d (p.toSql d) = some p := by
  have hr : read d (p.toSql d).toList = some (p, []) := read_chars h
  rw [ofSql?, hr]
  rfl

end Plan

/-! ## composed plans -/

namespace Step

theorem isReadable_planOf {s : Step} (hs : s.filters = []) {catalog : Catalog} {model : Table}
    (settings : QuerySettings) (sites : List (Table × String)) {added : List Expr × List Join}
    (ha : Extender.recordTypeConversion s catalog model = .ok added) :
    (s.planOf model settings sites added).isReadable = true := by
  have hadded : (∀ e ∈ added.1, e.isReadable = true) ∧
      ∀ j ∈ added.2, j.condition.isReadable = true := by
    rcases Extender.recordTypeConversion_eq_ok.mp ha with ⟨_, rfl⟩ | ⟨column, _, _, _, _, rfl⟩
    · simp
    · simp [Extender.recordTypeJoins, Expr.isReadable, Expr.isComparison]
  have hlookups : ∀ p ∈ Extender.converted model.name sites (joinNames model sites.length),
      p.1.isReadable = true ∧ p.2.condition.isReadable = true := by
    intro p hp
    obtain ⟨⟨site, name⟩, _, rfl⟩ := List.mem_map.mp hp
    exact ⟨rfl, rfl⟩
  have hfilters : ∀ e ∈ Extender.recordTypeFilters s model, e.isReadable = true := by
    intro e he
    unfold Extender.recordTypeFilters at he
    split at he
    · cases he
    · split at he
      · rw [List.mem_singleton.mp he]
        rfl
      · cases he
  simp only [Plan.isReadable, planOf, hs, Bool.and_eq_true, List.all_eq_true]
  refine ⟨⟨⟨?_, ?_⟩, ?_⟩, by simp [Expr.isReadable]⟩
  · intro e he
    rcases List.mem_append.mp he with he | he
    · rcases List.mem_append.mp he with he | he
      · rcases List.mem_cons.mp he with rfl | he
        · rfl
        · obtain ⟨c, _, rfl⟩ := List.mem_map.mp he
          rfl
      · obtain ⟨p, hp, rfl⟩ := List.mem_map.mp he
        exact (hlookups p hp).1
    · exact hadded.1 e he
  · intro j hj
    rcases List.mem_append.mp hj with hj | hj
    · obtain ⟨p, hp, rfl⟩ := List.mem_map.mp hj
      exact (hlookups p hp).2
    · exact hadded.2 j hj
  · intro e he
    rw [List.map_nil, List.append_nil] at he
    rcases List.mem_append.mp he with he | he
    · exact hfilters e he
    · split at he
      · rw [List.mem_singleton.mp he]
        rfl
      · cases he

end Step

/-- **The SQL of a plan determines the plan, whatever characters are in its names and texts**, for
plans without SQL from outside and without comparisons of comparisons; the load plan of a step
without conditions of its own is such a plan. -/
theorem Plan.toSql_injective (d : Dialect) :
    (∀ p q : Plan, p.isReadable = true → q.isReadable = true → p.toSql d = q.toSql d → p = q) ∧
      ∀ (s : Step) (catalog : Catalog) (model : Table) (settings : QuerySettings) (plan : Plan),
        s.filters = [] → (s.loadPlan catalog model settings).outcome = .ok plan →
          plan.isReadable = true := by
  constructor
  · intro p q hp hq h
    have hr : some p = some q := by
      rw [← ofSql?_toSql (d := d) hp, h, ofSql?_toSql hq]
    exact Option.some.inj hr
  · intro s catalog model settings plan hs hp
    obtain ⟨_, sites, _, added, ha, rfl⟩ := Step.loadPlan_eq_ok.mp hp
    exact Step.isReadable_planOf hs settings sites ha

/-- a plan written down by hand has the SQL of a composed one, with names and a text that hold
quotes, new lines and words of SQL -/
theorem Plan.toSql_injective_hostile_names :
    let s : Step := {
      object := "A"
      table := some "a\" AS \"t1"
      fields := Roster.ofList [("Name", "n\"\nFROM \"x"), ("RecordTypeId", "r' OR '1' = '1")]
      lookups := Roster.ofList [("Owner\", Id", { table := "U" })]
      recordType := some "it's\nORDER BY 1) --" }
    let model := ((Table.named "a\" AS \"t1").markKey "id").addColumns
      ["n\"\nFROM \"x", "r' OR '1' = '1", "Owner\", Id", "record_type"]
    let catalog := Catalog.forLoad [s, { object := "U" }]
    let staged := fun column => Expr.column "a\" AS \"t1" column
    let p : Plan := {
      source := .plain "a\" AS \"t1"
      columns := [staged "id", staged "n\"\nFROM \"x", .column "t1" "sf_id",
        .column "A_rt_target_mapping" "record_type_id"]
      joins := [
        { table := { table := "U_sf_ids", name := "t1" }
          condition := .eq (.column "t1" "id") (.castText (staged "Owner\", Id")) },
        { table := .plain "A_rt_mapping"
          condition := .eq (.column "A_rt_mapping" "record_type_id") (staged "r' OR '1' = '1") },
        { table := .plain "A_rt_target_mapping"
          condition := .eq (.column "A_rt_target_mapping" "developer_name")
            (.column "A_rt_mapping" "developer_name") }]
      filters := [.eq (staged "record_type") (.text "it's\nORDER BY 1) --")]
      orderBy := [staged "id"] }
    ∃ q, (s.loadPlan catalog model {}).outcome = .ok q ∧ q.toSql .sqlite = p.toSql .sqlite ∧
      q = p := by
  intro s model catalog staged p
  have hsql : (s.loadPlan catalog model {}).outcome.toOption.map (fun q => q.toSql .sqlite) =
      some (p.toSql .sqlite) := by
    decide +kernel
  obtain ⟨q, hq, hsql⟩ := toOption_map_eq_some.mp hsql
  obtain ⟨hinj, hread⟩ := toSql_injective .sqlite
  have hr : q.isReadable = true := hread s catalog model {} q rfl hq
  exact ⟨q, hq, hsql, hinj q p hr (by decide +kernel) hsql⟩

end StagedLoad
