import Mathlib.Data.List.Nodup
import StagedLoad.Proofs.Staging.Registration
import StagedLoad.Proofs.Text.Reading
import StagedLoad.Staging.Definition

/-!
# Reading a catalog back from its script

The script that creates the tables of a catalog has one statement for each table, and a statement
one line for each column, of which that of the primary key is marked.  All names are quoted, so no
name ends its own line, list or statement, whatever characters are in it; and a table is made of
its name, its columns and its mark by the operations that make tables (`Table.ofMarks_marks`).  So
the catalog is read back from its script (`Catalog.ofScript?_createScript`), and no two catalogs
have one script (`Catalog.createScript_injective`).
-/

namespace StagedLoad

open Text

namespace Table

/-! ## columns and the mark of the primary key -/

def marks (t : Table) : List (String × Bool) :=
  t.columns.toList.map fun column => (column, decide (t.primaryKey = some column))

/-- the table of a name with the given columns and the mark that one of them may have -/
def ofMarks (name : String) (marks : List (String × Bool)) : Table :=
  let t := (named name).addColumns (marks.map Prod.fst)
  match marks.find? Prod.snd with
  | some (key, _) => t.markKey key
  | none => t

theorem columns_addColumns (t : Table) (cs : List String) :
    (t.addColumns cs).columns = t.columns.putAll cs := by
  induction cs generalizing t with
  | nil => rfl
  | cons c cs ih =>
    rw [addColumns_cons, ih, Roster.putAll_cons]
    rfl

theorem columns_markKey_of_mem {t : Table} {column : String} (h : column ∈ t.columns.toList) :
    (t.markKey column).columns = t.columns := dif_pos h

theorem names_marks (t : Table) : t.marks.map Prod.fst = t.columns.toList := by
  rw [marks, List.map_map]
  exact List.map_id _

theorem filter_marks (t : Table) :
    t.marks.filter Prod.snd = (t.primaryKey.map fun key => (key, true)).toList := by
  have hf : t.marks.filter Prod.snd =
      (t.columns.toList.filter fun column => decide (t.primaryKey = some column)).map
        fun column => (column, decide (t.primaryKey = some column)) := List.filter_map
  rw [hf]
  cases hk : t.primaryKey with
  | none => simp
  | some key =>
    have hm : key ∈ t.columns.toList := t.primaryKey_mem key hk
    have he : (fun column => decide (some key = some column)) = (· == key) := by
      funext column
      simp [eq_comm, Bool.beq_eq_decide_eq]
    have hs : t.columns.toList.filter (fun column => decide (some key = some column)) = [key] := by
      rw [he, List.filter_beq, List.count_eq_one_of_mem t.nodup_columns hm]
      rfl
    rw [hs]
    simp

theorem find?_marks (t : Table) :
    t.marks.find? Prod.snd = t.primaryKey.map fun key => (key, true) := by
  rw [← List.head?_filter, filter_marks]
  exact Option.head?_toList

/-- **A table is made of its name, its columns and the mark of its primary key.** -/
theorem ofMarks_marks (t : Table) : ofMarks t.name t.marks = t := by
  have hc : ((named t.name).addColumns (t.marks.map Prod.fst)).columns = t.columns := by
    rw [names_marks, columns_addColumns]
    exact Roster.ofList_toList t.columns
  have hn : ((named t.name).addColumns (t.marks.map Prod.fst)).name = t.name :=
    name_addColumns _ _
  rw [ofMarks, find?_marks]
  cases hk : t.primaryKey with
  | none =>
    have hp : ((named t.name).addColumns (t.marks.map Prod.fst)).primaryKey = none :=
      Catalog.primaryKey_addColumns _ _
    exact ext hn hc (hp.trans hk.symm)
  | some key =>
    have hm : key ∈ ((named t.name).addColumns (t.marks.map Prod.fst)).columns.toList := by
      rw [hc]
      exact t.primaryKey_mem key hk
    exact ext hn ((columns_markKey_of_mem hm).trans hc) hk.symm

/-! ## the written form -/

section
variable (d : Dialect)

def columnChars (m : String × Bool) : List Char :=
  "    ".toList ++ (quotedChars '"' m.1.toList ++
    ((" " ++ d.textType).toList ++ if m.2 then " PRIMARY KEY".toList else []))

def chars (t : Table) : List Char := (t.createStatement d).toList

theorem toList_columnDefinition (t : Table) (column : String) :
    (t.columnDefinition d column).toList =
      columnChars d (column, decide (t.primaryKey = some column)) := by
  unfold columnDefinition columnChars
  by_cases h : t.primaryKey = some column
  · simp [h, Dialect.toList_quoteName]
  · simp [h, Dialect.toList_quoteName]

theorem chars_eq (t : Table) : t.chars d =
    "CREATE TABLE ".toList ++ (quotedChars '"' t.name.toList ++ (" (\n".toList ++
      (",\n".toList.intercalate (t.marks.map (columnChars d)) ++ "\n)".toList))) := by
  have hm : (t.columns.toList.map (t.columnDefinition d)).map String.toList =
      t.marks.map (columnChars d) := by
    rw [marks, List.map_map, List.map_map]
    exact List.map_congr_left fun column _ => toList_columnDefinition d t column
  unfold chars createStatement
  simp only [String.toList_append, Dialect.toList_quoteName, String.toList_intercalate, ← hm,
    List.append_assoc]

/-! ## the reader -/

def readColumn : Reader (String × Bool) := fun cs => do
  let cs ← after? "    ".toList cs
  let (column, cs) ← quotedText '"' cs
  let cs ← after? (" " ++ d.textType).toList cs
  match after? " PRIMARY KEY".toList cs with
  | some cs => some ((column, true), cs)
  | none => some ((column, false), cs)

/-- the name of the table that a statement creates, and its columns with their marks -/
def readMarks : Reader (String × List (String × Bool)) := fun cs => do
  let cs ← after? "CREATE TABLE ".toList cs
  let (name, cs) ← quotedText '"' cs
  let cs ← after? " (\n".toList cs
  let (marks, cs) ← listed ",\n".toList (readColumn d) cs
  let cs ← after? "\n)".toList cs
  return ((name, marks), cs)

def read : Reader Table := fun cs =>
  (readMarks d cs).map fun ((name, marks), cs) => (ofMarks name marks, cs)

end

variable {d : Dialect}

/-! ## the law -/

/-- the line of a column is read where it is not followed by the mark that it lacks -/
theorem reads_column (m : String × Bool) :
    Reads (readColumn d) (fun rest => after? " PRIMARY KEY".toList rest = none) (columnChars d m)
      m := by
  intro rest hr
  obtain ⟨column, marked⟩ := m
  -- the type begins with a blank, so the name in front of it ends there
  have hname : ∀ r, quotedText '"' (quotedChars '"' column.toList ++
      ((" " ++ d.textType).toList ++ r)) = some (column, (" " ++ d.textType).toList ++ r) := by
    intro r
    refine reads_quotedText '"' column _ fun r' he => ?_
    rw [String.toList_append] at he
    cases he
  cases marked with
  | true =>
    show readColumn d ("    ".toList ++ (quotedChars '"' column.toList ++
      ((" " ++ d.textType).toList ++ " PRIMARY KEY".toList)) ++ rest) = _
    rw [List.append_assoc, List.append_assoc, List.append_assoc, readColumn, after?_append]
    simp only [Option.bind_eq_bind, Option.bind_some]
    rw [hname]
    simp only [Option.bind_some, after?_append]
  | false =>
    show readColumn d ("    ".toList ++ (quotedChars '"' column.toList ++
      ((" " ++ d.textType).toList ++ [])) ++ rest) = _
    rw [List.append_nil, List.append_assoc, List.append_assoc, readColumn, after?_append]
    simp only [Option.bind_eq_bind, Option.bind_some]
    rw [hname]
    simp only [Option.bind_some, after?_append, hr]

theorem reads_columns (marks : List (String × Bool)) :
    Reads (listed ",\n".toList (readColumn d)) (fun rest => ∃ r, rest = "\n)".toList ++ r)
      (",\n".toList.intercalate (marks.map (columnChars d))) marks := by
  intro rest ⟨r, hr⟩
  have hi : ∀ m ∈ marks, Reads (readColumn d)
      (fun rest => after? " PRIMARY KEY".toList rest = none) (columnChars d m) m :=
    fun m _ => reads_column m
  have hmark : after? " PRIMARY KEY".toList rest = none := by
    rw [hr]
    rfl
  have hcomma : after? ",\n".toList rest = none := by
    rw [hr]
    rfl
  have hline : readColumn d rest = none := by
    rw [hr]
    rfl
  exact reads_listed hi (by decide) (fun _ => rfl) rest ⟨hmark, hcomma, hline⟩

theorem reads_marks (t : Table) :
    Reads (readMarks d) (fun _ => True) (t.chars d) (t.name, t.marks) := by
  intro rest _
  have hname := reads_quotedText '"' t.name (" (\n".toList ++
    (",\n".toList.intercalate (t.marks.map (columnChars d)) ++ ("\n)".toList ++ rest)))
    (fun r he => by cases he)
  have hcolumns := reads_columns (d := d) t.marks ("\n)".toList ++ rest) ⟨rest, rfl⟩
  rw [chars_eq]
  simp only [List.append_assoc]
  rw [readMarks, after?_append]
  simp only [Option.bind_eq_bind, Option.bind_some]
  rw [hname]
  simp only [Option.bind_some, after?_append]
  rw [hcolumns]
  simp only [Option.bind_some, after?_append]
  rfl

theorem reads (t : Table) : Reads (read d) (fun _ => True) (t.chars d) t := by
  intro rest h
  rw [read, reads_marks t rest h]
  show some (ofMarks t.name t.marks, rest) = _
  rw [ofMarks_marks]

end Table

namespace Catalog

/-! ## scripts -/

def readStatement (d : Dialect) : Reader Table := fun cs => do
  let (t, cs) ← Table.read d cs
  let cs ← after? ";\n\n".toList cs
  return (t, cs)

def ofScript? (d : Dialect) (script : String) : Option Catalog :=
  let (ts, rest) := many (readStatement d) script.toList
  if rest.isEmpty then some (({} : Catalog).addAll ts) else none

theorem reads_statement {d : Dialect} (t : Table) :
    Reads (readStatement d) (fun _ => True) (t.chars d ++ ";\n\n".toList) t := by
  intro rest _
  have ht := Table.reads (d := d) t (";\n\n".toList ++ rest) trivial
  rw [List.append_assoc, readStatement, ht]
  simp only [Option.bind_eq_bind, Option.bind_some, after?_append]
  rfl

theorem toList_createScript (c : Catalog) (d : Dialect) :
    (c.createScript d).toList = c.tables.toList.flatMap fun t => t.chars d ++ ";\n\n".toList := by
  simp [createScript, String.toList_join, List.flatMap_map, Table.chars]

theorem addAll_tables (c : Catalog) : ({} : Catalog).addAll c.tables.toList = c := by
  have h : (({} : Catalog).addAll c.tables.toList).tables = c.tables := by
    rw [tables_addAll]
    exact Roster.ofList_toList c.tables
  exact congrArg Catalog.mk h

theorem many_createScript (d : Dialect) (c : Catalog) :
    many (readStatement d) (c.createScript d).toList = (c.tables.toList, []) := by
  let written : Table → List Char := fun t => t.chars d ++ ";\n\n".toList
  have hread : ∀ t ∈ c.tables.toList, Reads (readStatement d) (fun _ => True) (written t) t :=
    fun t _ => reads_statement t
  have hne : ∀ t ∈ c.tables.toList, written t ≠ [] := by
    intro t _
    show t.chars d ++ ";\n\n".toList ≠ []
    rw [Table.chars_eq]
    exact List.cons_ne_nil _ _
  have hmany : many (readStatement d) (c.tables.toList.flatMap written ++ []) =
      (c.tables.toList, []) := many_flatMap hread (fun _ _ _ => trivial) hne trivial rfl
  rw [List.append_nil] at hmany
  rw [toList_createScript]
  exact hmany

theorem ofScript?_createScript (d : Dialect) (c : Catalog) :
    ofScript? d (c.createScript d) = some c := by
  rw [ofScript?, many_createScript]
  show some (({} : Catalog).addAll c.tables.toList) = some c
  rw [addAll_tables]

/-- **The script that creates the tables of a catalog determines the catalog**: the tables in
their order, and of each its name, its columns in their order and its primary key, whatever
characters are in the names. -/
theorem createScript_injective (d : Dialect) :
    (∀ c : Catalog, ofScript? d (c.createScript d) = some c) ∧
      ∀ c c' : Catalog, c.createScript d = c'.createScript d → c = c' := by
  refine ⟨ofScript?_createScript d, fun c c' h => ?_⟩
  have hr : some c = some c' := by
    rw [← ofScript?_createScript d c, h, ofScript?_createScript]
  exact Option.some.inj hr

/-- a table that is registered again, one without columns, keys that are marked early and late,
and names that hold quotes, new lines and the ends of lines and statements -/
theorem createScript_injective_hostile_names :
    let c := ({} : Catalog).addAll [.named "x",
      ((Table.named "a\" (\n)").addColumn "id\" TEXT PRIMARY KEY,\n    \"n").markKey ");\n\n",
      .named "", ((Table.named "x").markKey "b").addColumns ["c\n)", "b", "\""]]
    let c' := ({} : Catalog).addAll [
      ((Table.named "x").addColumns ["b", "c\n)", "b", "\""]).markKey "b",
      ((Table.named "a\" (\n)").markKey ");\n\n").addColumn "id\" TEXT PRIMARY KEY,\n    \"n",
      .named ""]
    c.createScript .sqlite = c'.createScript .sqlite ∧ c = c' := by
  intro c c'
  have hs : c.createScript .sqlite = c'.createScript .sqlite := by decide +kernel
  exact ⟨hs, (createScript_injective .sqlite).2 c c' hs⟩

end Catalog

end StagedLoad
