import StagedLoad.Proofs.LastItem
import StagedLoad.Proofs.Staging.ScriptReading

/-!
# Dropping mirrors creating

Tables are registered one after the other, and a name may come back any number of times.  The
tables that stay (`StaysOf`) have each name once, where it was first met, with the table that was
registered last under it.  These two demands leave no choice (`StaysOf.eq`), and a catalog that
begins empty meets them (`Catalog.staysOf_addAll`).

Its two scripts are read back statement by statement.  The one that creates has the tables that
stay, in their order; the one that drops has their names, in the reverse order
(`Catalog.addAll_mirrored`).  So at every point of the second script those tables are left that
the first one created before all others (`Catalog.left_after_drops`).
-/

namespace StagedLoad

open Text

/-! ## the tables that stay -/

/-- the second list has the tables of the first that no later one of their name replaces, in the
order in which their names are first met -/
structure StaysOf (registered left : List Table) : Prop where
  names : FirstOccurrences (registered.map Table.name) (left.map Table.name)
  last : ∀ t ∈ left, LastOf Table.name registered t

namespace StaysOf
variable {ts us vs : List Table}

theorem eq (hu : StaysOf ts us) (hv : StaysOf ts vs) : us = vs := by
  have hn : us.map Table.name = vs.map Table.name := by
    rw [firstOccurrences_iff.mp hu.names, firstOccurrences_iff.mp hv.names]
  have hl : us.length = vs.length := by
    rw [← List.length_map Table.name, hn, List.length_map]
  apply List.ext_getElem hl
  intro i hi hj
  have hname : us[i].name = vs[i].name := by
    rw [← List.getElem_map Table.name, ← List.getElem_map Table.name]
    · simp only [hn]
    all_goals simpa
  exact (hu.last _ (List.getElem_mem hi)).eq_of_key_eq (hv.last _ (List.getElem_mem hj)) hname

end StaysOf

namespace Catalog

/-- **A catalog keeps the first place and the last table of every name.** -/
theorem staysOf_addAll (ts : List Table) :
    StaysOf ts (({} : Catalog).addAll ts).tables.toList := by
  have ht : (({} : Catalog).addAll ts).tables = Roster.ofList ts := tables_addAll {} ts
  rw [ht]
  constructor
  · exact firstOccurrences_iff.mpr (Roster.keys_ofList ts)
  · intro t h
    exact Roster.mem_ofList_iff_lastOf.mp h

/-! ## the script that drops -/

/-- what stands behind the name in a statement that drops a table -/
def dropEnd (d : Dialect) : String :=
  (match d.dropSuffix? with
    | some suffix => " " ++ suffix
    | none => "") ++ ";\n"

def dropChars (d : Dialect) (name : String) : List Char :=
  "DROP TABLE IF EXISTS ".toList ++ (quotedChars '"' name.toList ++ (dropEnd d).toList)

def readDrop (d : Dialect) : Reader String := fun cs => do
  let cs ← after? "DROP TABLE IF EXISTS ".toList cs
  let (name, cs) ← quotedText '"' cs
  let cs ← after? (dropEnd d).toList cs
  return (name, cs)

theorem toList_dropStatement (d : Dialect) (t : Table) :
    (t.dropStatement d ++ ";\n").toList = dropChars d t.name := by
  unfold Table.dropStatement dropChars dropEnd
  cases d.dropSuffix? with
  | none => simp only [String.toList_append, Dialect.toList_quoteName, List.append_assoc]
  | some suffix => simp only [String.toList_append, Dialect.toList_quoteName, List.append_assoc]

theorem dropEnd_ne_quote (d : Dialect) (rest r : List Char) :
    (dropEnd d).toList ++ rest ≠ '"' :: r := by
  intro h
  have hhead : ((dropEnd d).toList ++ rest).head? = some '"' := by rw [h]; rfl
  have hend : (dropEnd d).toList.head? ≠ some '"' ∧ (dropEnd d).toList ≠ [] := by
    cases d with
    | postgres => decide
    | sqlite => decide
  rw [List.head?_append_of_ne_nil _ hend.2] at hhead
  exact hend.1 hhead

theorem reads_drop (d : Dialect) (name : String) :
    Reads (readDrop d) (fun _ => True) (dropChars d name) name := by
  intro rest _
  have hname := reads_quotedText '"' name ((dropEnd d).toList ++ rest) (dropEnd_ne_quote d rest)
  unfold dropChars
  simp only [List.append_assoc]
  rw [readDrop, after?_append]
  simp only [Option.bind_eq_bind, Option.bind_some]
  rw [hname]
  simp only [Option.bind_some, after?_append]
  rfl

theorem toList_dropScript (c : Catalog) (d : Dialect) :
    (c.dropScript d).toList = (c.tables.toList.map Table.name).reverse.flatMap (dropChars d) := by
  simp only [dropScript, String.toList_join, List.flatMap_map, ← List.map_reverse,
    toList_dropStatement]

theorem many_dropScript (d : Dialect) (c : Catalog) :
    many (readDrop d) (c.dropScript d).toList = ((c.tables.toList.map Table.name).reverse, []) := by
  have hread : ∀ n ∈ (c.tables.toList.map Table.name).reverse,
      Reads (readDrop d) (fun _ => True) (dropChars d n) n := fun n _ => reads_drop d n
  have hne : ∀ n ∈ (c.tables.toList.map Table.name).reverse, dropChars d n ≠ [] :=
    fun n _ => List.cons_ne_nil _ _
  have hstop : readDrop d [] = none := rfl
  have hmany := many_flatMap hread (fun _ _ _ => trivial) hne trivial hstop
  rw [List.append_nil] at hmany
  rw [toList_dropScript]
  exact hmany

/-! ## the mirror -/

/-- **Whatever tables are registered, each name is kept once, at its first place, with its last
table; a table is found under its name and no other; and of the two scripts, in either dialect,
one creates these tables in their order and the other drops the same ones in the reverse
order.** -/
theorem addAll_mirrored (ts : List Table) :
    let c := ({} : Catalog).addAll ts
    let left := c.tables.toList
    StaysOf ts left ∧
    (∀ name t, c.table name = .ok t ↔ t ∈ left ∧ t.name = name) ∧
    (∀ name e, c.table name = .error e ↔ name ∉ ts.map Table.name ∧ e = { table := name }) ∧
    ∀ d : Dialect,
      c.createScript d = String.join (left.map fun t => t.createStatement d ++ ";\n\n") ∧
      many (readStatement d) (c.createScript d).toList = (left, []) ∧
      c.dropScript d = String.join (left.reverse.map fun t => t.dropStatement d ++ ";\n") ∧
      many (readDrop d) (c.dropScript d).toList = (left.reverse.map Table.name, []) := by
  intro c left
  have hs : StaysOf ts left := staysOf_addAll ts
  refine ⟨hs, ?_, ?_, ?_⟩
  · intro name t
    exact table_eq_ok_iff
  · intro name e
    rw [table_eq_error_iff, ← hs.names.mem_iff]
  · intro d
    have hd := many_dropScript d c
    rw [← List.map_reverse] at hd
    exact ⟨rfl, many_createScript d c, rfl, hd⟩

example :
    let c := ({} : Catalog).addAll [.named "a", .named "b", (Table.named "a").addColumn "c"]
    c.dropScript .sqlite = "DROP TABLE IF EXISTS \"b\";\nDROP TABLE IF EXISTS \"a\";\n" ∧
      c.tables.toList = [(Table.named "a").addColumn "c", .named "b"] := by decide +kernel

/-! ## dropping one after the other -/

def dropFrom (ts : List Table) (name : String) : List Table := ts.filter fun t => t.name ≠ name

theorem dropFrom_append_singleton {ts : List Table} {t : Table}
    (h : ((ts ++ [t]).map Table.name).Nodup) : dropFrom (ts ++ [t]) t.name = ts := by
  rw [List.map_append, List.nodup_append] at h
  have hs : ts.filter (fun u => u.name ≠ t.name) = ts := by
    apply List.filter_eq_self.mpr
    intro u hu
    have hne : u.name ≠ t.name := h.2.2 _ (List.mem_map_of_mem hu) _ (List.mem_singleton_self _)
    exact decide_eq_true hne
  rw [dropFrom, List.filter_append, hs]
  simp

theorem foldl_dropFrom {ts us : List Table} (h : ((ts ++ us).map Table.name).Nodup) :
    (us.map Table.name).reverse.foldl dropFrom (ts ++ us) = ts := by
  -- the induction is on the tables that are dropped, of which the last one goes first
  induction us using List.reverseRecOn with
  | nil => exact List.append_nil ts
  | append_singleton us u ih =>
    rw [← List.append_assoc] at h ⊢
    have hs : ((ts ++ us).map Table.name).Nodup := by
      rw [List.map_append] at h
      exact h.of_append_left
    rw [List.map_append, List.reverse_append]
    show (us.map Table.name).reverse.foldl dropFrom (dropFrom (ts ++ us ++ [u]) u.name) = ts
    rw [dropFrom_append_singleton h]
    exact ih hs

/-- **Dropping undoes creating**: when some statements of the script that drops are carried out,
those tables are left that the other script created before all others. -/
theorem left_after_drops (d : Dialect) (c : Catalog) (n : Nat) :
    ((many (readDrop d) (c.dropScript d).toList).1.take n).foldl dropFrom c.tables.toList =
      c.tables.toList.take (c.tables.toList.length - n) := by
  let k := c.tables.toList.length - n
  have hd : (c.tables.toList.map Table.name).reverse.take n =
      ((c.tables.toList.drop k).map Table.name).reverse := by
    rw [List.take_reverse, List.length_map, List.map_drop]
  have hc : c.tables.toList.take k ++ c.tables.toList.drop k = c.tables.toList :=
    List.take_append_drop k _
  have hn : ((c.tables.toList.take k ++ c.tables.toList.drop k).map Table.name).Nodup := by
    rw [hc]
    exact c.tables.distinct
  have hf := foldl_dropFrom hn
  rw [hc] at hf
  rw [many_dropScript, hd, hf]

end Catalog

end StagedLoad
