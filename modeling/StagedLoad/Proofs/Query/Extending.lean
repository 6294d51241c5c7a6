import StagedLoad.Proofs.Query.Scope

/-!
# Extending a plan, part by part

A plan is extended in three passes over the extenders, one for joins, one for columns and one for
filters (`Plan.extended_eq_inPasses`).  Each pass appends to its own clause, so that extending by
some extenders and then by others is extending by all of them (`Plan.extended_append`).

The columns and filters of an extender may use the names of all joins, those of later extenders
as well.  So where the conditions of the new joins use no names of other new joins, the order of
the extenders has no say in whether all names are defined (`Plan.undefinedNames_extended_iff`).
-/

namespace StagedLoad

namespace Extender

def newJoins (e : Extender) : List Join := e.joins.getD []

def newColumns (e : Extender) : List Expr := e.columns.getD []

def newFilters (e : Extender) : List Expr := e.filters.getD []

def newNames (e : Extender) : List String := e.newJoins.map (·.table.name)

/-- every part of the extender is absent or empty -/
def AddsNothing (e : Extender) : Prop :=
  e.newJoins = [] ∧ e.newColumns = [] ∧ e.newFilters = []

/-- each condition of a join uses known names and that of its own join only -/
def JoinsKeepTo (known : List String) (e : Extender) : Prop :=
  ∀ j ∈ e.newJoins, j.condition.Within (j.table.name :: known)

def KeepsTo (known : List String) (e : Extender) : Prop :=
  ∀ x ∈ e.newColumns ++ e.newFilters, x.Within known

theorem KeepsTo.congr {known known' : List String} (h : ∀ q, q ∈ known ↔ q ∈ known')
    (e : Extender) : e.KeepsTo known ↔ e.KeepsTo known' :=
  forall₂_congr fun _ _ => ⟨Expr.Within.mono fun q => (h q).mp, Expr.Within.mono fun q => (h q).mpr⟩

end Extender

namespace Plan

/-! ## passes -/

/-- a plan extended in one pass for each kind of part -/
def inPasses (p : Plan) (es : List Extender) : Plan :=
  es.foldl (fun p e => p.addFilters e.newFilters)
    (es.foldl (fun p e => p.addColumns e.newColumns)
      (es.foldl (fun p e => p.addJoins e.newJoins) p))

theorem foldl_add {α : Type} {add : Plan → List α → Plan} (part : Extender → List α)
    (add_nil : ∀ p, add p [] = p) (add_append : ∀ p as bs, add p (as ++ bs) = add (add p as) bs)
    (p : Plan) (es : List Extender) :
    es.foldl (fun p e => add p (part e)) p = add p (es.flatMap part) := by
  induction es generalizing p with
  | nil => exact (add_nil p).symm
  | cons e es ih => rw [List.foldl_cons, ih, List.flatMap_cons, add_append]

theorem extended_eq_inPasses (p : Plan) (es : List Extender) : p.extended es = p.inPasses es := by
  unfold inPasses
  rw [foldl_add _ addJoins_nil addJoins_append, foldl_add _ addColumns_nil addColumns_append,
    foldl_add _ addFilters_nil addFilters_append]
  rfl

theorem extended_append (p : Plan) (as bs : List Extender) :
    p.extended (as ++ bs) = (p.extended as).extended bs := by
  simp [extended, addJoins, addColumns, addFilters]

theorem extended_of_addsNothing {e : Extender} (h : e.AddsNothing) (p : Plan) :
    p.extended [e] = p := by
  obtain ⟨hj, hc, hf⟩ := h
  rw [extended_eq_inPasses, inPasses]
  simp only [List.foldl_cons, List.foldl_nil, hj, hc, hf, addJoins_nil, addColumns_nil,
    addFilters_nil]

theorem extended_without {e : Extender} (h : e.AddsNothing) (p : Plan) (as bs : List Extender) :
    p.extended (as ++ e :: bs) = p.extended (as ++ bs) := by
  rw [List.append_cons, extended_append, extended_append p as [e], extended_of_addsNothing h,
    ← extended_append]

/-! ## names -/

theorem names_extended (p : Plan) (es : List Extender) :
    (p.extended es).names = p.names ++ es.flatMap Extender.newNames := by
  rw [names, joins_extended, List.map_append, List.map_flatMap]
  rfl

theorem joinsWithin_extended {p : Plan} {es : List Extender}
    (hp : JoinsWithin [p.source.name] p.joins) (hj : ∀ e ∈ es, e.JoinsKeepTo p.names) :
    JoinsWithin [p.source.name] (p.extended es).joins := by
  rw [joins_extended]
  refine joinsWithin_append hp (joinsWithin_of_forall fun j hm => ?_)
  obtain ⟨e, he, hm⟩ := List.mem_flatMap.mp hm
  refine (hj e he j hm).mono (List.cons_subset_cons _ fun q hq => ?_)
  rw [List.mem_append, List.mem_singleton, or_comm]
  exact List.mem_cons.mp hq

theorem undefinedNames_extended_iff {p : Plan} {es : List Extender} (hp : p.undefinedNames = [])
    (hj : ∀ e ∈ es, e.JoinsKeepTo p.names) :
    (p.extended es).undefinedNames = [] ↔
      ∀ e ∈ es, e.KeepsTo (p.names ++ es.flatMap Extender.newNames) := by
  obtain ⟨hjoins, hold⟩ := undefinedNames_eq_nil.mp hp
  -- an expression of the plan only has more names to use
  have hmore : ∀ x ∈ p.columns ++ p.filters ++ p.orderBy,
      x.Within (p.names ++ es.flatMap Extender.newNames) :=
    fun x hx => (hold x hx).mono (List.subset_append_left ..)
  rw [List.forall_mem_append, List.forall_mem_append] at hmore
  obtain ⟨⟨hc, hf⟩, ho⟩ := hmore
  rw [undefinedNames_eq_nil, source_extended, and_iff_right (joinsWithin_extended hjoins hj),
    names_extended, columns_extended, filters_extended, orderBy_extended]
  simp only [List.forall_mem_append, List.forall_mem_flatMap]
  constructor
  · rintro ⟨⟨⟨_, hcs⟩, _, hfs⟩, _⟩ e he
    exact List.forall_mem_append.mpr ⟨hcs e he, hfs e he⟩
  · intro h
    exact ⟨⟨⟨hc, fun e he => (List.forall_mem_append.mp (h e he)).1⟩,
      hf, fun e he => (List.forall_mem_append.mp (h e he)).2⟩, ho⟩

theorem undefinedNames_extended_perm {p : Plan} {es fs : List Extender} (hf : fs.Perm es)
    (hp : p.undefinedNames = []) (hj : ∀ e ∈ es, e.JoinsKeepTo p.names) :
    (p.extended fs).undefinedNames = [] ↔
      ∀ e ∈ es, e.KeepsTo (p.names ++ es.flatMap Extender.newNames) := by
  have hn : ∀ q, q ∈ p.names ++ fs.flatMap Extender.newNames ↔
      q ∈ p.names ++ es.flatMap Extender.newNames := by
    intro q
    rw [List.mem_append, List.mem_append, (hf.flatMap_right _).mem_iff]
  rw [undefinedNames_extended_iff hp fun e he => hj e (hf.mem_iff.mp he)]
  exact forall_congr' fun e => imp_congr hf.mem_iff (Extender.KeepsTo.congr hn e)

/-- **A plan is extended in three passes that append to it and leave its source and its order
alone; the extenders may be taken in parts, and those that add nothing left out.  Where the
conditions of the new joins keep to the names of the plan and to their own, the names of the
extended plan are all defined when every extender keeps to the names of the plan and of all new
joins, whatever the order of the extenders.** -/
theorem extended_staged (p : Plan) (es : List Extender) :
    ((p.extend es).outcome = .ok (p.extended es) ∧ p.extended es = p.inPasses es) ∧
    ((p.extended es).source = p.source ∧ (p.extended es).orderBy = p.orderBy ∧
      (p.extended es).joins = p.joins ++ es.flatMap Extender.newJoins ∧
      (p.extended es).columns = p.columns ++ es.flatMap Extender.newColumns ∧
      (p.extended es).filters = p.filters ++ es.flatMap Extender.newFilters) ∧
    (∀ as bs, es = as ++ bs → p.extended es = (p.extended as).extended bs) ∧
    (∀ as e bs, es = as ++ e :: bs → e.AddsNothing → p.extended es = p.extended (as ++ bs)) ∧
    (p.undefinedNames = [] → (∀ e ∈ es, e.JoinsKeepTo p.names) →
      ∀ fs, fs.Perm es → ((p.extended fs).undefinedNames = [] ↔
        ∀ e ∈ es, e.KeepsTo (p.names ++ es.flatMap Extender.newNames))) := by
  refine ⟨⟨p.outcome_extend es, p.extended_eq_inPasses es⟩,
    ⟨p.source_extended es, p.orderBy_extended es, p.joins_extended es, p.columns_extended es,
      p.filters_extended es⟩, ?_, ?_, ?_⟩
  · rintro as bs rfl
    exact p.extended_append as bs
  · rintro as e bs rfl he
    exact extended_without he p as bs
  · intro hp hj fs hf
    exact undefinedNames_extended_perm hf hp hj

/-- a filter may come before the join that it needs, and may not do without it -/
theorem extended_staged_later_join :
    let p : Plan := { source := .plain "Contact", columns := [.column "Contact" "id"] }
    let filtering : Extender := {
      name := "filtering", filters := some [.eq (.column "t1" "sf_id") (.text "x")] }
    let idle : Extender := { name := "idle", columns := some [] }
    let joining : Extender := {
      name := "joining"
      columns := some [.column "t1" "sf_id"]
      joins := some [{
        table := { table := "Account_sf_ids", name := "t1" }
        condition := .eq (.column "t1" "id") (.column "Contact" "AccountId") }] }
    (p.extended [filtering, idle, joining]).undefinedNames = [] ∧
      (p.extended [joining, filtering, idle]).undefinedNames = [] ∧
      p.extended [filtering, idle, joining] = p.extended [filtering, joining] ∧
      (p.extended [filtering, idle]).undefinedNames ≠ [] := by
  intro p filtering idle joining
  have hp : p.undefinedNames = [] := by decide
  have hi : idle.AddsNothing := ⟨rfl, rfl, rfl⟩
  have hj : ∀ e ∈ [filtering, idle, joining], e.JoinsKeepTo p.names := by
    simp [filtering, idle, joining, p, Extender.JoinsKeepTo, Extender.newJoins, names,
      TableRef.plain]
  have hk : ∀ e ∈ [filtering, idle, joining],
      e.KeepsTo (p.names ++ [filtering, idle, joining].flatMap Extender.newNames) := by
    simp [filtering, idle, joining, Extender.KeepsTo, Extender.newColumns, Extender.newFilters,
      Extender.newNames, Extender.newJoins]
  obtain ⟨_, _, _, hwithout, hverdict⟩ := p.extended_staged [filtering, idle, joining]
  refine ⟨(hverdict hp hj _ (List.Perm.refl _)).mpr hk,
    (hverdict hp hj _ (List.perm_append_singleton joining [filtering, idle]).symm).mpr hk,
    hwithout [filtering] idle [joining] rfl hi, ?_⟩
  have hj' : ∀ e ∈ [filtering, idle], e.JoinsKeepTo p.names :=
    fun e he => hj e (List.mem_append_left [joining] he)
  obtain ⟨_, _, _, _, hverdict'⟩ := p.extended_staged [filtering, idle]
  rw [ne_eq, hverdict' hp hj' _ (List.Perm.refl _)]
  intro h
  have := h filtering (List.mem_cons_self ..) _ (List.mem_cons_self ..) _ (List.mem_cons_self ..)
  exact absurd this (by decide)

end Plan

end StagedLoad
