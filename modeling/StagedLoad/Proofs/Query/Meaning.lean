import StagedLoad.Proofs.Outcome
import StagedLoad.Query.Plan

/-!
# What a plan reads

A database holds the rows of its tables, and a row holds a text or nothing (NULL) in every column.
An expression is evaluated in a scope, the rows that a query has put side by side under the names
of their tables; it has no value when a name is not borne by exactly one table of the scope, or
when texts and truth values are mixed up.  Comparisons with NULL are unknown, and a condition holds
when it is true, not when it is unknown.  A query selects a scope when all its filters are true
together.

A left outer join puts every row that fulfils its condition beside a scope, and a row of NULLs when
there is none.  The tables of a plan are joined one after the other, starting with one scope for
each row of its source.
-/

namespace StagedLoad

/-- the text in each column, `none` for NULL -/
abbrev Row := String → Option String

/-- the rows of each table -/
abbrev Database := String → List Row

/-- rows side by side, under the names that a query calls their tables -/
abbrev Scope := List (String × Row)

inductive Datum where
  | text (s : String)
  | truth (b : Bool)
  deriving DecidableEq, Repr

inductive Flaw where
  | unknownName (name : String)
  | ambiguousName (name : String)
  | mixedKinds
  deriving DecidableEq, Repr

namespace Row

def nulls : Row := fun _ => none

/-- whether a row has a value in a column; NULL is in no row, and NULL in a row is no value -/
def bears (column : String) (value : Option String) (row : Row) : Bool :=
  value.any fun v => decide (row column = some v)

theorem bears_iff {column : String} {value : Option String} {row : Row} :
    row.bears column value = true ↔ ∃ v, value = some v ∧ row column = some v := by
  rw [bears, Option.any_eq_true]
  simp only [decide_eq_true_eq]

end Row

namespace Scope

def row (scope : Scope) (name : String) : Except Flaw Row :=
  match scope.filter fun b => b.1 = name with
  | [] => .error (.unknownName name)
  | [b] => .ok b.2
  | _ => .error (.ambiguousName name)

def beside (scope : Scope) (name : String) (row : Row) : Scope := scope ++ [(name, row)]

end Scope

theorem filter_key_eq {α κ : Type} [DecidableEq κ] {key : α → Option κ} {as : List α}
    (hn : (as.filterMap key).Nodup) {a : α} (ha : a ∈ as) {k : κ} (hk : key a = some k) :
    as.filter (fun b => key b = some k) = [a] := by
  induction as with
  | nil => cases ha
  | cons b as ih =>
    rw [List.filter_cons]
    by_cases hb : key b = some k
    · rw [List.filterMap_cons_some hb, List.nodup_cons] at hn
      have hne : ∀ c ∈ as, ¬ key c = some k :=
        fun c hc he => hn.1 (List.mem_filterMap.mpr ⟨c, hc, he⟩)
      have he : as.filter (fun b => key b = some k) = [] := by
        rw [List.filter_eq_nil_iff]
        intro c hc
        simpa using hne c hc
      rw [if_pos (decide_eq_true hb), he]
      rcases List.mem_cons.mp ha with rfl | ha
      · rfl
      · exact absurd hk (hne a ha)
    · rw [if_neg (by simpa using hb)]
      have ha' : a ∈ as := by
        rcases List.mem_cons.mp ha with rfl | ha
        · exact absurd hk hb
        · exact ha
      have hn' : (as.filterMap key).Nodup :=
        hn.sublist ((List.sublist_cons_self b as).filterMap key)
      exact ih hn' ha'

theorem Scope.row_of_mem {scope : Scope} {name : String} {row : Row}
    (hn : (scope.map Prod.fst).Nodup) (hm : (name, row) ∈ scope) : scope.row name = .ok row := by
  have hk : (scope.filterMap fun b => some b.1).Nodup := by
    rw [List.filterMap_eq_map']
    exact hn
  have hf : (scope.filter fun b => b.1 = name) = [(name, row)] := by
    have h := filter_key_eq hk hm rfl
    simpa using h
  rw [Scope.row, hf]

/-! ## values -/

namespace Datum

def textOf : Option Datum → Except Flaw (Option String)
  | none => .ok none
  | some (.text s) => .ok (some s)
  | some (.truth _) => .error .mixedKinds

def truthOf : Option Datum → Except Flaw (Option Bool)
  | none => .ok none
  | some (.text _) => .error .mixedKinds
  | some (.truth b) => .ok (some b)

def equal : Option Datum → Option Datum → Except Flaw (Option Bool)
  | some (.text s), some (.text t) => .ok (some (s == t))
  | some (.truth a), some (.truth b) => .ok (some (a == b))
  | some _, some _ => .error .mixedKinds
  | _, _ => .ok none

def either : Option Bool → Option Bool → Option Bool
  | some true, _ => some true
  | _, some true => some true
  | some false, some false => some false
  | _, _ => none

def both : Option Bool → Option Bool → Option Bool
  | some false, _ => some false
  | _, some false => some false
  | some true, some true => some true
  | _, _ => none

/-- a conjunction is true when both its parts are: unknown is no more than false here -/
theorem both_beq_true (a b : Option Bool) :
    (both a b == some true) = (a == some true && b == some true) := by
  rcases a with _ | _ | _ <;> rcases b with _ | _ | _ <;> rfl

end Datum

/-- what a database system decides: its lower case, and the truth of SQL from outside -/
structure Engine where
  lower : String → String
  raw : String → Scope → Option Bool

namespace Engine
variable (E : Engine)

open Datum in
def eval (scope : Scope) : Expr → Except Flaw (Option Datum)
  | .column q c => (scope.row q).map fun row => (row c).map .text
  | .text v => .ok (some (.text v))
  | .raw sql => .ok ((E.raw sql scope).map .truth)
  | .eq l r => do
    let same ← equal (← eval scope l) (← eval scope r)
    return same.map .truth
  | .ne l r => do
    let same ← equal (← eval scope l) (← eval scope r)
    return same.map fun b => .truth (!b)
  | .isNull e => do
    let v ← eval scope e
    return some (.truth v.isNone)
  | .or l r => do
    let a ← truthOf (← eval scope l)
    let b ← truthOf (← eval scope r)
    return (either a b).map .truth
  | .lower e => do
    let s ← textOf (← eval scope e)
    return s.map fun s => .text (E.lower s)
  | .castText e => do
    let s ← textOf (← eval scope e)
    return s.map .text

def holds (scope : Scope) (e : Expr) : Except Flaw Bool := do
  let t ← Datum.truthOf (← E.eval scope e)
  return t == some true

/-! ## filters -/

/-- the truth of conditions with `AND` between them, which is true when there are none -/
def conjunction (scope : Scope) : List Expr → Except Flaw (Option Bool)
  | [] => .ok (some true)
  | e :: es => do
    let a ← Datum.truthOf (← E.eval scope e)
    let b ← conjunction scope es
    return Datum.both a b

/-- whether a query with these filters selects a scope -/
def selects (scope : Scope) (filters : List Expr) : Except Flaw Bool := do
  let t ← E.conjunction scope filters
  return t == some true

/-! ## joins -/

/-- what a left outer join makes of a scope -/
def joined (db : Database) (j : Join) (scope : Scope) : Except Flaw (List Scope) := do
  let rows ← (db j.table.table).filterM fun row =>
    E.holds (scope.beside j.table.name row) j.condition
  return (if rows.isEmpty then [Row.nulls] else rows).map (scope.beside j.table.name)

def joinedAll (db : Database) : List Join → List Scope → Except Flaw (List Scope)
  | [], scopes => .ok scopes
  | j :: js, scopes => do
    let scopes ← scopes.mapM (E.joined db j)
    joinedAll db js scopes.flatten

/-- the scopes in which the columns and filters of a plan are evaluated: what is read from its
source and its joins -/
def scopes (db : Database) (p : Plan) : Except Flaw (List Scope) :=
  E.joinedAll db p.joins ((db p.source.table).map fun row => [(p.source.name, row)])

/-! ## small facts -/

variable {E} {db : Database}

theorem eval_column {scope : Scope} {name column : String} {row : Row}
    (h : scope.row name = .ok row) :
    E.eval scope (.column name column) = .ok ((row column).map .text) := by
  show (scope.row name).map (fun row => (row column).map Datum.text) = _
  rw [h]
  rfl

theorem holds_eq {scope : Scope} {l r : Expr} {a b : Option String}
    (hl : E.eval scope l = .ok (a.map .text)) (hr : E.eval scope r = .ok (b.map .text)) :
    E.holds scope (.eq l r) = .ok (b.any fun v => decide (a = some v)) := by
  rw [holds, eval, hl, ok_bind, hr, ok_bind]
  cases b with
  | none => cases a <;> rfl
  | some v =>
    cases a with
    | none => rfl
    | some w =>
      show Except.ok (some (w == v) == some true) = Except.ok (decide (some w = some v))
      congr 1
      rw [Bool.eq_iff_iff]
      simp

theorem eval_isNull {scope : Scope} {e : Expr} {v : Option String}
    (h : E.eval scope e = .ok (v.map .text)) :
    E.eval scope (.isNull e) = .ok ((some v.isNone).map .truth) := by
  show (E.eval scope e >>= fun v => .ok (some (Datum.truth v.isNone))) = _
  rw [h]
  cases v <;> rfl

theorem eval_lower {scope : Scope} {e : Expr} {v : Option String}
    (h : E.eval scope e = .ok (v.map .text)) :
    E.eval scope (.lower e) = .ok ((v.map E.lower).map .text) := by
  show (E.eval scope e >>= fun v => Datum.textOf v >>= fun s =>
    .ok (s.map fun s => Datum.text (E.lower s))) = _
  rw [h]
  cases v <;> rfl

theorem eval_ne {scope : Scope} {l r : Expr} {a b : Option String}
    (hl : E.eval scope l = .ok (a.map .text)) (hr : E.eval scope r = .ok (b.map .text)) :
    E.eval scope (.ne l r) =
      .ok ((a.bind fun s => b.map fun t => s != t).map .truth) := by
  rw [eval, hl, ok_bind, hr]
  cases a <;> cases b <;> rfl

theorem holds_or {scope : Scope} {l r : Expr} {a b : Option Bool}
    (hl : E.eval scope l = .ok (a.map .truth)) (hr : E.eval scope r = .ok (b.map .truth)) :
    E.holds scope (.or l r) = .ok (a == some true || b == some true) := by
  rw [holds, eval, hl, ok_bind, hr]
  rcases a with _ | _ | _ <;> rcases b with _ | _ | _ <;> rfl

theorem selects_nil {scope : Scope} : E.selects scope [] = .ok true := rfl

theorem selects_cons {scope : Scope} {e : Expr} {es : List Expr} :
    E.selects scope (e :: es) =
      (do
        let a ← E.holds scope e
        let b ← E.selects scope es
        return a && b) := by
  unfold selects holds
  rw [conjunction]
  cases E.eval scope e with
  | error f => rfl
  | ok v =>
    rw [ok_bind, ok_bind]
    cases Datum.truthOf v with
    | error f => rfl
    | ok a =>
      cases E.conjunction scope es with
      | error f => rfl
      | ok b => exact congrArg Except.ok (Datum.both_beq_true a b)

theorem selects_append {scope : Scope} {es fs : List Expr} :
    E.selects scope (es ++ fs) =
      (do
        let a ← E.selects scope es
        let b ← E.selects scope fs
        return a && b) := by
  induction es with
  | nil =>
    rw [List.nil_append, selects_nil, ok_bind]
    cases E.selects scope fs <;> rfl
  | cons e es ih =>
    rw [List.cons_append, selects_cons, selects_cons, ih]
    cases E.holds scope e with
    | error f => rfl
    | ok a =>
      cases E.selects scope es with
      | error f => rfl
      | ok b =>
        cases E.selects scope fs with
        | error f => rfl
        | ok c => exact congrArg Except.ok (Bool.and_assoc a b c).symm

theorem joined_eq {j : Join} {scope : Scope} {p : Row → Bool} {rows : List Row}
    (hp : ∀ row ∈ db j.table.table,
      E.holds (scope.beside j.table.name row) j.condition = .ok (p row))
    (hr : (db j.table.table).filter p = rows) :
    E.joined db j scope = .ok
      ((if rows.isEmpty then [Row.nulls] else rows).map (scope.beside j.table.name)) := by
  rw [joined, filterM_eq_ok hp, hr]
  rfl

theorem joinedAll_cons_map {α : Type} {j : Join} {js : List Join} {as : List α} {f : α → Scope}
    {g : α → List Scope} (h : ∀ a ∈ as, E.joined db j (f a) = .ok (g a)) :
    E.joinedAll db (j :: js) (as.map f) = E.joinedAll db js (as.flatMap g) := by
  have hm : (as.map f).mapM (E.joined db j) = .ok (as.map g) := by
    rw [mapM_eq_ok, List.forall₂_map_left_iff, List.forall₂_map_right_iff, List.forall₂_same]
    exact h
  rw [joinedAll, hm, ok_bind, List.flatMap_def]

theorem exists_joinedAll_cons {α : Type} {R R' : α → Scope → Prop} {j : Join}
    (hj : ∀ a scope, R a scope → ∃ scope', E.joined db j scope = .ok [scope'] ∧ R' a scope')
    (js : List Join) {as : List α} {scopes : List Scope} (h : List.Forall₂ R as scopes) :
    ∃ scopes', E.joinedAll db (j :: js) scopes = E.joinedAll db js scopes' ∧
      List.Forall₂ R' as scopes' := by
  have hs : ∃ scopes', scopes.mapM (E.joined db j) = .ok (scopes'.map fun scope => [scope]) ∧
      List.Forall₂ R' as scopes' := by
    induction h with
    | nil => exact ⟨[], rfl, .nil⟩
    | cons hr _ ih =>
      obtain ⟨scope', hs, hr'⟩ := hj _ _ hr
      obtain ⟨scopes', hss, h'⟩ := ih
      refine ⟨scope' :: scopes', ?_, .cons hr' h'⟩
      rw [List.mapM_cons, hs, hss]
      rfl
  obtain ⟨scopes', hs, h'⟩ := hs
  refine ⟨scopes', ?_, h'⟩
  have hf : (scopes'.map fun scope => [scope]).flatten = scopes' := by
    rw [← List.flatMap_def]
    exact List.flatMap_singleton' scopes'
  rw [joinedAll, hs, ok_bind, hf]

end Engine

end StagedLoad
