import StagedLoad.Proofs.LastItem
import StagedLoad.Proofs.Staging.ScriptReading

/-!
# The columns of a table in their order

A table is defined by adding columns and marking primary keys, in any order and any number of
times.  All this comes down to columns that are mentioned one after the other.  A column that is
there stays where it is, so its place is decided when it is first mentioned: in front of the
columns that are there if it is marked then, and behind them if not (`columns_run`).

So every column that is mentioned is there once, and columns that stand next to each other stay so
(`infix_run`).  The primary key is the column that was marked last; the statement that creates the
table marks this column and no other (`run_columns_and_key`).
-/

namespace StagedLoad.Table

/-! ## runs -/

inductive Change where
  | addColumn (column : String)
  | addColumns (columns : List String)
  | markKey (column : String)

def Change.on (t : Table) : Change → Table
  | .addColumn column => t.addColumn column
  | .addColumns columns => t.addColumns columns
  | .markKey column => t.markKey column

def run (name : String) (cs : List Change) : Table := cs.foldl Change.on (named name)

/-- the columns that a change mentions, each with whether it is marked -/
def Change.mentions : Change → List (String × Bool)
  | .addColumn column => [(column, false)]
  | .addColumns columns => columns.map fun column => (column, false)
  | .markKey column => [(column, true)]

def Change.columns (c : Change) : List String := c.mentions.map Prod.fst

def Change.key? : Change → Option String
  | .addColumn _ => none
  | .addColumns _ => none
  | .markKey column => some column

theorem run_append (name : String) (cs ds : List Change) :
    run name (cs ++ ds) = ds.foldl Change.on (run name cs) := List.foldl_append

theorem name_on (t : Table) (c : Change) : (Change.on t c).name = t.name := by
  cases c with
  | addColumn column => exact name_addColumn t column
  | addColumns columns => exact name_addColumns t columns
  | markKey column => exact name_markKey t column

theorem name_run (name : String) (cs : List Change) : (run name cs).name = name := by
  induction cs using List.reverseRecOn with
  | nil => rfl
  | append_singleton cs c ih =>
    rw [run_append]
    exact (name_on _ c).trans ih

/-! ## one column at a time -/

/-- a list of columns with one more, in front or behind, unless it is there -/
def inserted (columns : List String) (m : String × Bool) : List String :=
  if m.1 ∈ columns then columns else if m.2 then m.1 :: columns else columns ++ [m.1]

theorem columns_addColumn (t : Table) (column : String) :
    (t.addColumn column).columns.toList = inserted t.columns.toList (column, false) := by
  show (t.columns.put column).toList = _
  unfold inserted
  split
  · next h => rw [Roster.put_of_mem h]
  · next h =>
    have hk : column ∉ t.columns.keys := by
      rw [OrderedSet.keys_eq]
      exact h
    exact Roster.toList_put_of_not_mem hk

theorem columns_markKey (t : Table) (column : String) :
    (t.markKey column).columns.toList = inserted t.columns.toList (column, true) := by
  show (withFront t.columns column).toList = _
  unfold withFront inserted
  split
  · rfl
  · rfl

theorem columns_on (t : Table) (c : Change) :
    (c.on t).columns.toList = c.mentions.foldl inserted t.columns.toList := by
  cases c with
  | addColumn column => exact columns_addColumn t column
  | addColumns columns =>
    show (t.addColumns columns).columns.toList = _
    induction columns generalizing t with
    | nil => rfl
    | cons column columns ih =>
      rw [addColumns_cons, ih, columns_addColumn]
      rfl
  | markKey column => exact columns_markKey t column

theorem columns_foldl (t : Table) (cs : List Change) :
    (cs.foldl Change.on t).columns.toList =
      (cs.flatMap Change.mentions).foldl inserted t.columns.toList := by
  induction cs generalizing t with
  | nil => rfl
  | cons c cs ih => rw [List.foldl_cons, ih, columns_on, List.flatMap_cons, List.foldl_append]

/-! ## the place of a column -/

/-- columns in the order of their first mention -/
def mentioned (ms : List (String × Bool)) : List String := (ms.map Prod.fst).eraseDups

def beginsMarked (ms : List (String × Bool)) (column : String) : Bool :=
  (ms.find? fun m => m.1 = column).any Prod.snd

/-- the columns that are marked where they are first mentioned, the latest in front, and behind
them the others in the order of their first mention -/
def arranged (ms : List (String × Bool)) : List String :=
  ((mentioned ms).filter (beginsMarked ms)).reverse ++
    (mentioned ms).filter fun column => !beginsMarked ms column

theorem mem_mentioned {ms : List (String × Bool)} {column : String} :
    column ∈ mentioned ms ↔ column ∈ ms.map Prod.fst := List.mem_eraseDups

theorem mentioned_concat (ms : List (String × Bool)) (m : String × Bool) :
    mentioned (ms ++ [m]) =
      if m.1 ∈ ms.map Prod.fst then mentioned ms else mentioned ms ++ [m.1] := by
  rw [mentioned, List.map_append]
  exact eraseDups_concat _ _

theorem beginsMarked_append_of_mem {ms : List (String × Bool)} {column : String}
    (h : column ∈ ms.map Prod.fst) (ns : List (String × Bool)) :
    beginsMarked (ms ++ ns) column = beginsMarked ms column := by
  obtain ⟨m, hm, rfl⟩ := List.mem_map.mp h
  have hs : (ms.find? fun n => n.1 = m.1).isSome := by
    rw [List.find?_isSome]
    exact ⟨m, hm, by simp⟩
  obtain ⟨n, hn⟩ := Option.isSome_iff_exists.mp hs
  rw [beginsMarked, beginsMarked, List.find?_append, hn]
  rfl

theorem beginsMarked_concat_of_not_mem {ms : List (String × Bool)} {m : String × Bool}
    (h : m.1 ∉ ms.map Prod.fst) : beginsMarked (ms ++ [m]) m.1 = m.2 := by
  have hn : (ms.find? fun n => n.1 = m.1) = none := by
    rw [List.find?_eq_none]
    intro n hn he
    exact h (of_decide_eq_true he ▸ List.mem_map_of_mem hn)
  rw [beginsMarked, List.find?_append, hn]
  simp

theorem arranged_perm (ms : List (String × Bool)) : (arranged ms).Perm (mentioned ms) :=
  ((List.reverse_perm _).append_right _).trans (List.filter_append_perm _ _)

theorem mem_arranged {ms : List (String × Bool)} {column : String} :
    column ∈ arranged ms ↔ column ∈ ms.map Prod.fst := by
  rw [(arranged_perm ms).mem_iff, mem_mentioned]

theorem nodup_arranged (ms : List (String × Bool)) : (arranged ms).Nodup :=
  (arranged_perm ms).nodup_iff.mpr (nodup_eraseDups _)

/-- one more mention does to the arranged columns what it does to those of a table -/
theorem arranged_concat (ms : List (String × Bool)) (m : String × Bool) :
    arranged (ms ++ [m]) = inserted (arranged ms) m := by
  -- what was mentioned before is marked or not as it was
  have hold : ∀ column ∈ mentioned ms, beginsMarked (ms ++ [m]) column = beginsMarked ms column :=
    fun column hc => beginsMarked_append_of_mem (mem_mentioned.mp hc) [m]
  have hfront : (mentioned ms).filter (beginsMarked (ms ++ [m])) =
      (mentioned ms).filter (beginsMarked ms) := List.filter_congr hold
  have hback : (mentioned ms).filter (fun column => !beginsMarked (ms ++ [m]) column) =
      (mentioned ms).filter fun column => !beginsMarked ms column :=
    List.filter_congr fun column hc => by rw [hold column hc]
  unfold inserted
  simp only [mem_arranged]
  rw [arranged, mentioned_concat]
  by_cases hm : m.1 ∈ ms.map Prod.fst
  · rw [if_pos hm, if_pos hm, hfront, hback]
    rfl
  · have hnew : beginsMarked (ms ++ [m]) m.1 = m.2 := beginsMarked_concat_of_not_mem hm
    rw [if_neg hm, if_neg hm, List.filter_append, List.filter_append, hfront, hback,
      List.filter_singleton, List.filter_singleton, hnew]
    cases hk : m.2 with
    | true => simp [arranged]
    | false => simp [arranged]

/-- **Where a column stands is decided when it is first mentioned**: those that are marked then
come in front of all that are there, those that are added behind them. -/
theorem columns_run (name : String) (cs : List Change) :
    (run name cs).columns.toList = arranged (cs.flatMap Change.mentions) := by
  have h : ∀ ms : List (String × Bool), ms.foldl inserted [] = arranged ms := by
    intro ms
    -- along the mentions from behind, as the last one finds the others in their places
    induction ms using List.reverseRecOn with
    | nil => rfl
    | append_singleton ms m ih =>
      rw [List.foldl_append, ih, arranged_concat]
      rfl
  rw [run, columns_foldl]
  exact h _

/-! ## what stays -/

theorem infix_inserted (columns : List String) (m : String × Bool) :
    columns <:+: inserted columns m := by
  unfold inserted
  split
  · exact List.infix_rfl
  · split
    · exact (List.suffix_cons m.1 columns).isInfix
    · exact (List.prefix_append columns [m.1]).isInfix

theorem infix_foldl (columns : List String) (ms : List (String × Bool)) :
    columns <:+: ms.foldl inserted columns := by
  induction ms generalizing columns with
  | nil => exact List.infix_rfl
  | cons m ms ih => exact (infix_inserted columns m).trans (ih _)

theorem infix_run (name : String) (cs ds : List Change) :
    (run name cs).columns.toList <:+: (run name (cs ++ ds)).columns.toList := by
  rw [run_append, columns_foldl]
  exact infix_foldl _ _

theorem hasColumn_run {name column : String} {cs : List Change} :
    (run name cs).hasColumn column = true ↔ ∃ c ∈ cs, column ∈ c.columns := by
  rw [hasColumn_iff, columns_run, mem_arranged, List.map_flatMap, List.mem_flatMap]
  rfl

/-! ## the primary key -/

theorem primaryKey_on (t : Table) (c : Change) : (c.on t).primaryKey = c.key?.or t.primaryKey := by
  cases c with
  | addColumn column => exact primaryKey_addColumn t column
  | addColumns columns => exact Catalog.primaryKey_addColumns t columns
  | markKey column => exact primaryKey_markKey t column

theorem primaryKey_run (name : String) (cs : List Change) :
    (run name cs).primaryKey = (cs.filterMap Change.key?).getLast? := by
  induction cs using List.reverseRecOn with
  | nil => rfl
  | append_singleton cs c ih =>
    rw [run_append, List.filterMap_append, List.getLast?_append, ← ih]
    exact (primaryKey_on _ c).trans (by cases c <;> rfl)

/-! ## the law -/

/-- **However a table is defined, its columns are those that were mentioned, each one once;
columns that are there stay together and in their order; the primary key is the one that was
marked last, and is one of them; and in the statement that creates the table, in either dialect,
this column bears the mark and no other does.** -/
theorem run_columns_and_key (name : String) (cs : List Change) :
    let t := run name cs
    t.columns.toList.Nodup ∧
    (∀ column, t.hasColumn column = true ↔ ∃ c ∈ cs, column ∈ c.columns) ∧
    (∀ ds, t.columns.toList <:+: (run name (cs ++ ds)).columns.toList) ∧
    t.primaryKey = (cs.filterMap Change.key?).getLast? ∧
    t.primaryKey.toList ⊆ t.columns.toList ∧
    ∀ (d : Dialect) (rest : List Char), ∃ marks,
      readMarks d ((t.createStatement d).toList ++ rest) = some ((name, marks), rest) ∧
      marks.map Prod.fst = t.columns.toList ∧
      marks.filter Prod.snd = (t.primaryKey.map fun key => (key, true)).toList := by
  intro t
  have hd : t.columns.toList.Nodup := by
    rw [columns_run]
    exact nodup_arranged _
  have hk : t.primaryKey.toList ⊆ t.columns.toList := fun key h =>
    t.primaryKey_mem key (Option.mem_toList.mp h)
  refine ⟨hd, fun _ => hasColumn_run, infix_run name cs, primaryKey_run name cs, hk, ?_⟩
  intro d rest
  have hr : readMarks d ((t.createStatement d).toList ++ rest) = some ((t.name, t.marks), rest) :=
    reads_marks t rest trivial
  rw [name_run] at hr
  exact ⟨t.marks, hr, names_marks t, filter_marks t⟩

/-- a key that is marked late on a column that is there, after another that came in front -/
example :
    let t := run "Contact" [.addColumns ["LastName", "AccountId", "LastName"], .markKey "id",
      .addColumn "id", .markKey "row", .markKey "AccountId", .addColumn "LastName"]
    t.columns.toList = ["row", "id", "LastName", "AccountId"] ∧
      t.primaryKey = some "AccountId" := by decide

end StagedLoad.Table
