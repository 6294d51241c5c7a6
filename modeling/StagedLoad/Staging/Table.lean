import StagedLoad.Roster

/-!
# Tables of the staging database

A table has a name, columns of distinct names in order, and perhaps a primary key, which is one
of them.  Adding a column that is there changes nothing; marking a missing column as primary key
puts it in front of the others.

Two kinds of tables have a fixed layout: those that convert the ids of staging rows to ids of
the org, and those that name record types.
-/

namespace StagedLoad

/-! ## names -/

/-- the column that identifies a staging row -/
def idColumn : String := "id"

/-- the column for the id that the org gave to a row -/
def orgIdColumn : String := "sf_id"

def recordTypeIdColumn : String := "record_type_id"

def developerNameColumn : String := "developer_name"

/-- the staging column that names the record type of a row -/
def recordTypeColumn : String := "record_type"

def idTableName (table : String) : String := table ++ "_sf_ids"

/-! ## tables -/

structure Table where
  name : String
  columns : OrderedSet String
  primaryKey : Option String
  primaryKey_mem : ∀ k, primaryKey = some k → k ∈ columns.toList

namespace Table

@[ext] theorem ext {s t : Table} (hn : s.name = t.name) (hc : s.columns = t.columns)
    (hk : s.primaryKey = t.primaryKey) : s = t := by
  cases s; cases t; cases hn; cases hc; cases hk; rfl

instance : DecidableEq Table := fun s t =>
  decidable_of_iff (s.name = t.name ∧ s.columns = t.columns ∧ s.primaryKey = t.primaryKey)
    ⟨fun ⟨hn, hc, hk⟩ => ext hn hc hk, fun h => h ▸ ⟨rfl, rfl, rfl⟩⟩

def named (name : String) : Table where
  name := name
  columns := ∅
  primaryKey := none
  primaryKey_mem _ h := nomatch h

def hasColumn (t : Table) (column : String) : Bool := t.columns.hasKey column

theorem hasColumn_iff (t : Table) (column : String) :
    t.hasColumn column = true ↔ column ∈ t.columns.toList := by
  simp [hasColumn, Roster.hasKey, Roster.keys]

theorem mem_put {s : OrderedSet String} {a b : String} :
    b ∈ (s.put a).toList ↔ b ∈ s.toList ∨ b = a := by
  simpa [Roster.keys] using Roster.mem_keys_put s a b

/-- add a column behind the others, unless it is there -/
def addColumn (t : Table) (column : String) : Table where
  name := t.name
  columns := t.columns.put column
  primaryKey := t.primaryKey
  primaryKey_mem k h := mem_put.mpr (Or.inl (t.primaryKey_mem k h))

def addColumns (t : Table) (columns : List String) : Table := columns.foldl addColumn t

/-- the columns with one of them in front if it is missing -/
def withFront (columns : OrderedSet String) (column : String) : OrderedSet String :=
  if h : column ∈ columns.toList then columns
  else ⟨column :: columns.toList, by
    have := columns.distinct
    simp only [List.map_id, List.nodup_cons] at this ⊢
    exact ⟨h, this⟩⟩

theorem mem_withFront (columns : OrderedSet String) (column : String) :
    column ∈ (withFront columns column).toList := by
  unfold withFront
  split
  · next h => exact h
  · exact List.mem_cons_self ..

def markKey (t : Table) (column : String) : Table where
  name := t.name
  columns := withFront t.columns column
  primaryKey := some column
  primaryKey_mem k h := by cases h; exact mem_withFront t.columns column

/-- the column that identifies rows: the primary key, or the common id column -/
def rowId (t : Table) : String := t.primaryKey.getD idColumn

/-- the table that converts the ids of a staging table -/
def idMapping (table : String) : Table :=
  ((named (idTableName table)).markKey idColumn).addColumn orgIdColumn

def recordTypeMapping (name : String) : Table :=
  ((named name).markKey recordTypeIdColumn).addColumn developerNameColumn

/-! ## small facts -/

@[simp] theorem name_named (name : String) : (named name).name = name := rfl

@[simp] theorem name_addColumn (t : Table) (c : String) : (t.addColumn c).name = t.name := rfl

@[simp] theorem name_markKey (t : Table) (c : String) : (t.markKey c).name = t.name := rfl

@[simp] theorem primaryKey_addColumn (t : Table) (c : String) :
    (t.addColumn c).primaryKey = t.primaryKey := rfl

@[simp] theorem primaryKey_markKey (t : Table) (c : String) :
    (t.markKey c).primaryKey = some c := rfl

theorem addColumns_nil (t : Table) : t.addColumns [] = t := rfl

theorem addColumns_cons (t : Table) (c : String) (cs : List String) :
    t.addColumns (c :: cs) = (t.addColumn c).addColumns cs := rfl

@[simp] theorem name_addColumns (t : Table) (cs : List String) :
    (t.addColumns cs).name = t.name := by
  induction cs generalizing t with
  | nil => rfl
  | cons c cs ih => rw [addColumns_cons, ih, name_addColumn]

theorem hasColumn_addColumn (t : Table) (c d : String) :
    (t.addColumn c).hasColumn d = (t.hasColumn d || decide (d = c)) := by
  rw [Bool.eq_iff_iff, hasColumn_iff, Bool.or_eq_true, hasColumn_iff, decide_eq_true_iff]
  exact mem_put

@[simp] theorem name_idMapping (table : String) :
    (idMapping table).name = idTableName table := rfl

@[simp] theorem name_recordTypeMapping (name : String) :
    (recordTypeMapping name).name = name := rfl

end Table

end StagedLoad
