import Mathlib.Data.List.Basic
import StagedLoad.Query.Plan

/-!
# Every use of a name that is out of scope

A path leads to an expression of a plan: its first number is that of a clause (the conditions of
the joins, the columns, the filters, the order), the second that of an expression in the clause,
and the others say which operand to go into.  In the order of their paths, clauses and the
expressions in them come one behind the other, and operands come from left to right.

`Plan.uses` lists the uses of names with their paths.  It is what is found along the paths
(`Plan.mem_uses_iff`), in their order (`Plan.sorted_uses`).  The undefined names of a plan are its
uses of names that are not in scope where they stand (`Plan.undefinedNames_eq`).
-/

namespace StagedLoad

/-- the numbers of the parts to go into, one inside the other -/
abbrev Path := List Nat

/-! ## what is found in several parts -/

section
variable {α : Type}

def inParts (parts : List (List (Path × α))) : List (Path × α) :=
  parts.zipIdx.flatMap fun part => part.1.map fun u => (part.2 :: u.1, u.2)

theorem mem_inParts {parts : List (List (Path × α))} {path : Path} {a : α} :
    (path, a) ∈ inParts parts ↔
      ∃ i rest part, path = i :: rest ∧ parts[i]? = some part ∧ (rest, a) ∈ part := by
  unfold inParts
  rw [List.mem_flatMap]
  constructor
  · rintro ⟨⟨part, i⟩, hp, hm⟩
    obtain ⟨⟨rest, b⟩, hu, he⟩ := List.mem_map.mp hm
    cases he
    exact ⟨i, rest, part, rfl, List.mem_zipIdx_iff_getElem?.mp hp, hu⟩
  · rintro ⟨i, rest, part, rfl, hp, hm⟩
    exact ⟨(part, i), List.mem_zipIdx_iff_getElem?.mpr hp, List.mem_map.mpr ⟨(rest, a), hm, rfl⟩⟩

/-- what is found stands in the order of the paths -/
abbrev Sorted (us : List (Path × α)) : Prop := us.Pairwise fun u v => u.1 < v.1

theorem sorted_inParts {parts : List (List (Path × α))} (h : ∀ part ∈ parts, Sorted part) :
    Sorted (inParts parts) := by
  unfold inParts Sorted
  rw [List.pairwise_flatMap]
  constructor
  · rintro ⟨part, i⟩ hp
    rw [List.pairwise_map]
    refine (h part (List.fst_mem_of_mem_zipIdx hp)).imp fun {u v} huv => ?_
    exact List.cons_lt_cons_iff.mpr (Or.inr ⟨rfl, huv⟩)
  · have hi : parts.zipIdx.Pairwise fun p q => p.2 < q.2 := by
      rw [← List.pairwise_map, List.zipIdx_map_snd]
      exact List.pairwise_lt_range'
    refine hi.imp fun {p q} hpq x hx y hy => ?_
    obtain ⟨u, _, rfl⟩ := List.mem_map.mp hx
    obtain ⟨v, _, rfl⟩ := List.mem_map.mp hy
    exact List.cons_lt_cons_iff.mpr (Or.inl hpq)

theorem map_filter_inParts (test : Path → α → Bool) (parts : List (List (Path × α))) :
    ((inParts parts).filter fun u => test u.1 u.2).map Prod.snd =
      parts.zipIdx.flatMap fun part =>
        (part.1.filter fun u => test (part.2 :: u.1) u.2).map Prod.snd := by
  unfold inParts
  rw [List.filter_flatMap, List.map_flatMap]
  refine congrArg (List.flatMap · parts.zipIdx) (funext fun part => ?_)
  rw [List.filter_map, List.map_map]
  rfl

theorem map_inParts (parts : List (List (Path × α))) :
    (inParts parts).map Prod.snd = parts.flatMap (List.map Prod.snd) := by
  have h := map_filter_inParts (fun _ _ => true) parts
  simp only [List.filter_true] at h
  rw [h, ← List.flatMap_map, List.zipIdx_map_fst]

end

/-! ## uses in an expression -/

namespace Expr

/-- the operands of an expression, from left to right -/
def inner : Expr → List Expr
  | .column _ _ => []
  | .text _ => []
  | .raw _ => []
  | .eq l r => [l, r]
  | .ne l r => [l, r]
  | .isNull e => [e]
  | .or l r => [l, r]
  | .lower e => [e]
  | .castText e => [e]

def at? : Expr → Path → Option Expr
  | e, [] => some e
  | e, i :: path => e.inner[i]?.bind fun operand => operand.at? path

/-- the uses of names in an expression, each with its path -/
def uses : Expr → List (Path × String)
  | .column q _ => [([], q)]
  | .text _ => []
  | .raw _ => []
  | .eq l r => inParts [l.uses, r.uses]
  | .ne l r => inParts [l.uses, r.uses]
  | .isNull e => inParts [e.uses]
  | .or l r => inParts [l.uses, r.uses]
  | .lower e => inParts [e.uses]
  | .castText e => inParts [e.uses]

theorem inner_induction {P : Expr → Prop} (h : ∀ e, (∀ o ∈ e.inner, P o) → P e) (e : Expr) :
    P e := by
  induction e with
  | column q c => exact h _ fun _ ho => nomatch ho
  | text v => exact h _ fun _ ho => nomatch ho
  | raw sql => exact h _ fun _ ho => nomatch ho
  | eq l r hl hr => exact h _ (by simp [inner, hl, hr])
  | ne l r hl hr => exact h _ (by simp [inner, hl, hr])
  | isNull e he => exact h _ (by simp [inner, he])
  | or l r hl hr => exact h _ (by simp [inner, hl, hr])
  | lower e he => exact h _ (by simp [inner, he])
  | castText e he => exact h _ (by simp [inner, he])

theorem uses_eq_inParts {e : Expr} (h : ∀ q c, e ≠ .column q c) :
    e.uses = inParts (e.inner.map uses) := by
  cases e with
  | column q c => exact absurd rfl (h q c)
  | _ => rfl

theorem qualifiers_eq_flatMap {e : Expr} (h : ∀ q c, e ≠ .column q c) :
    e.qualifiers = e.inner.flatMap qualifiers := by
  cases e with
  | column q c => exact absurd rfl (h q c)
  | _ => simp [qualifiers, inner]

theorem column_or (e : Expr) : (∃ q c, e = .column q c) ∨ ∀ q c, e ≠ .column q c := by
  by_cases h : ∃ q c, e = .column q c
  · exact Or.inl h
  · exact Or.inr fun q c he => h ⟨q, c, he⟩

theorem map_uses (e : Expr) : e.uses.map Prod.snd = e.qualifiers := by
  induction e using inner_induction with
  | h e ih =>
    rcases column_or e with ⟨q, c, rfl⟩ | hc
    · rfl
    · rw [uses_eq_inParts hc, qualifiers_eq_flatMap hc, map_inParts, List.flatMap_map]
      exact List.flatMap_congr ih

theorem sorted_uses (e : Expr) : Sorted e.uses := by
  induction e using inner_induction with
  | h e ih =>
    rcases column_or e with ⟨q, c, rfl⟩ | hc
    · exact List.pairwise_singleton ..
    · rw [uses_eq_inParts hc]
      exact sorted_inParts (List.forall_mem_map.mpr ih)

def IsUse (found : Option Expr) (q : String) : Prop := ∃ c, found = some (.column q c)

theorem mem_inParts_uses {es : List Expr} {path : Path} {q : String}
    (h : ∀ e ∈ es, ∀ path, (path, q) ∈ e.uses ↔ IsUse (e.at? path) q) :
    (path, q) ∈ inParts (es.map uses) ↔
      ∃ i rest, path = i :: rest ∧ IsUse (es[i]?.bind fun e => e.at? rest) q := by
  rw [mem_inParts]
  constructor
  · rintro ⟨i, rest, part, rfl, hp, hm⟩
    rw [List.getElem?_map, Option.map_eq_some_iff] at hp
    obtain ⟨e, he, rfl⟩ := hp
    refine ⟨i, rest, rfl, ?_⟩
    rw [he]
    exact (h e (List.mem_of_getElem? he) rest).mp hm
  · rintro ⟨i, rest, rfl, c, hc⟩
    obtain ⟨e, he, hr⟩ := Option.bind_eq_some_iff.mp hc
    refine ⟨i, rest, e.uses, rfl, ?_, (h e (List.mem_of_getElem? he) rest).mpr ⟨c, hr⟩⟩
    rw [List.getElem?_map, he]
    rfl

theorem mem_uses_iff {e : Expr} {path : Path} {q : String} :
    (path, q) ∈ e.uses ↔ IsUse (e.at? path) q := by
  induction e using inner_induction generalizing path with
  | h e ih =>
    rcases column_or e with ⟨q', c, rfl⟩ | hc
    · cases path with
      | nil => simp [uses, IsUse, at?, eq_comm]
      | cons i path => simp [uses, IsUse, at?, inner]
    · rw [uses_eq_inParts hc, mem_inParts_uses fun o ho path => ih o ho]
      cases path with
      | nil => simp [IsUse, at?, hc]
      | cons i path => simp [at?]

end Expr

/-! ## uses in a plan -/

namespace Plan

/-- the expressions of a plan, clause by clause -/
def clauses (p : Plan) : List (List Expr) :=
  [p.joins.map (·.condition), p.columns, p.filters, p.orderBy]

def at? (p : Plan) : Path → Option Expr
  | clause :: i :: path => p.clauses[clause]?.bind fun es => es[i]?.bind fun e => e.at? path
  | _ => none

def uses (p : Plan) : List (Path × String) :=
  inParts (p.clauses.map fun es => inParts (es.map Expr.uses))

/-- the names that may be used at the end of a path: in the condition of a join that of the source
and those of the joins up to it, elsewhere all names that the plan introduces -/
def scopeAt (p : Plan) : Path → List String
  | 0 :: i :: _ => p.source.name :: (p.joins.take (i + 1)).map (·.table.name)
  | _ => p.names

theorem mem_uses_iff {p : Plan} {path : Path} {q : String} :
    (path, q) ∈ p.uses ↔ Expr.IsUse (p.at? path) q := by
  unfold uses
  rw [mem_inParts]
  simp only [List.getElem?_map, Option.map_eq_some_iff]
  constructor
  · rintro ⟨clause, rest, part, rfl, ⟨es, hes, rfl⟩, hm⟩
    rw [Expr.mem_inParts_uses fun _ _ _ => Expr.mem_uses_iff] at hm
    obtain ⟨i, path, rfl, hu⟩ := hm
    rw [at?, hes]
    exact hu
  · rintro ⟨c, hc⟩
    match path, hc with
    | clause :: i :: path, hc =>
      rw [at?, Option.bind_eq_some_iff] at hc
      obtain ⟨es, hes, hc⟩ := hc
      refine ⟨clause, i :: path, _, rfl, ⟨es, hes, rfl⟩, ?_⟩
      rw [Expr.mem_inParts_uses fun _ _ _ => Expr.mem_uses_iff]
      exact ⟨i, path, rfl, c, hc⟩

theorem sorted_uses (p : Plan) : Sorted p.uses := by
  refine sorted_inParts (List.forall_mem_map.mpr fun es _ => ?_)
  exact sorted_inParts (List.forall_mem_map.mpr fun e _ => e.sorted_uses)

/-! ## uses out of scope -/

theorem map_filter_uses (known : List String) (e : Expr) :
    (e.uses.filter fun u => !known.contains u.2).map Prod.snd =
      e.qualifiers.filter fun q => !known.contains q := by
  rw [← e.map_uses, List.filter_map]
  rfl

theorem map_filter_clause (known : List String) (es : List Expr) :
    ((inParts (es.map Expr.uses)).filter fun u => !known.contains u.2).map Prod.snd =
      unknownIn known es := by
  have h : (inParts (es.map Expr.uses)).map Prod.snd = es.flatMap Expr.qualifiers := by
    rw [map_inParts, List.flatMap_map]
    exact List.flatMap_congr fun e _ => e.map_uses
  rw [← Function.comp_def (fun q => !known.contains q) Prod.snd, ← List.filter_map, h,
    List.filter_flatMap]
  rfl

theorem unknownIn_congr {known known' : List String} (h : ∀ q, q ∈ known ↔ q ∈ known')
    (es : List Expr) : unknownIn known es = unknownIn known' es := by
  have hc : ∀ q, known.contains q = known'.contains q := by
    intro q
    rw [Bool.eq_iff_iff, List.contains_iff_mem, List.contains_iff_mem, h]
  simp only [unknownIn, hc]

/-- the names that are known to the condition of a join: those known from the start, and those of
the joins up to it -/
theorem unknownInJoins_eq (known : List String) (js : List Join) :
    unknownInJoins known js = js.zipIdx.flatMap fun j =>
      unknownIn (known ++ (js.take (j.2 + 1)).map (·.table.name)) [j.1.condition] := by
  induction js generalizing known with
  | nil => rfl
  | cons j js ih =>
    rw [unknownInJoins, ih, List.zipIdx_cons', List.flatMap_cons, List.flatMap_map]
    congr 1
    · refine unknownIn_congr (fun q => ?_) _
      simp [or_comm]
    · refine List.flatMap_congr fun k _ => unknownIn_congr (fun q => ?_) _
      simp only [List.take_succ_cons, List.map_cons, List.mem_append, List.mem_cons]
      tauto

theorem map_filter_joins (p : Plan) :
    ((inParts ((p.joins.map (·.condition)).map Expr.uses)).filter fun u =>
      !(p.scopeAt (0 :: u.1)).contains u.2).map Prod.snd =
      unknownInJoins [p.source.name] p.joins := by
  rw [map_filter_inParts fun path q => !(p.scopeAt (0 :: path)).contains q, unknownInJoins_eq,
    List.map_map, List.zipIdx_map, List.flatMap_map]
  refine List.flatMap_congr fun j _ => ?_
  rw [unknownIn, List.flatMap_singleton]
  exact map_filter_uses (p.scopeAt [0, j.2]) j.1.condition

theorem undefinedNames_eq (p : Plan) :
    p.undefinedNames =
      (p.uses.filter fun u => !(p.scopeAt u.1).contains u.2).map Prod.snd := by
  rw [uses, map_filter_inParts fun path q => !(p.scopeAt path).contains q]
  have hj := p.map_filter_joins
  have hc := map_filter_clause p.names
  rw [undefinedNames, ← hj, unknownIn_append, unknownIn_append, ← hc, ← hc, ← hc]
  simp only [clauses, List.map_cons, List.map_nil, List.zipIdx_cons, List.zipIdx_nil,
    List.flatMap_cons, List.flatMap_nil, List.append_nil, List.append_assoc]
  rfl

/-- **The undefined names of a plan are its uses of names that are out of scope, all of them, in
the order of their places; and there are none when every name that is used is in scope.** -/
theorem undefinedNames_each_use (p : Plan) :
    (∃ found : List (Path × String), p.undefinedNames = found.map Prod.snd ∧ Sorted found ∧
      ∀ path q, (path, q) ∈ found ↔ Expr.IsUse (p.at? path) q ∧ q ∉ p.scopeAt path) ∧
    (p.undefinedNames = [] ↔ ∀ path q, Expr.IsUse (p.at? path) q → q ∈ p.scopeAt path) := by
  have hf : ∀ path q, (path, q) ∈ (p.uses.filter fun u => !(p.scopeAt u.1).contains u.2) ↔
      Expr.IsUse (p.at? path) q ∧ q ∉ p.scopeAt path := by
    intro path q
    rw [List.mem_filter, mem_uses_iff]
    simp
  refine ⟨⟨_, p.undefinedNames_eq, p.sorted_uses.filter _, hf⟩, ?_⟩
  rw [undefinedNames_eq, List.map_eq_nil_iff, List.eq_nil_iff_forall_not_mem]
  constructor
  · intro h path q hu
    by_contra hq
    exact h (path, q) ((hf path q).mpr ⟨hu, hq⟩)
  · intro h u hu
    obtain ⟨hu, hq⟩ := (hf u.1 u.2).mp hu
    exact hq (h u.1 u.2 hu)

/-- a condition sees the joins up to its own only, and one name may be out of scope many times -/
example :
    ({ source := .plain "Contact"
       columns := [.or (.column "t2" "id") (.column "t9" "sf_id"), .raw "t8.id IS NULL"]
       joins := [
        { table := { table := "Account_sf_ids", name := "t1" }
          condition := .eq (.castText (.column "t2" "id")) (.column "t1" "id") },
        { table := { table := "User_sf_ids", name := "t2" }
          condition := .eq (.column "t2" "id") (.column "t1" "id") }]
       orderBy := [.lower (.column "t9" "id")] } : Plan).undefinedNames = ["t2", "t9", "t9"] := by
  decide

end Plan

end StagedLoad
