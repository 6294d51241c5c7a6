import StagedLoad.Proofs.LastItem
import StagedLoad.Proofs.Mapping.Steps

/-!
# Attaching lookups to any steps

Keeping the order of the declarations never fails, whatever the steps and the edges are: objects
may have several steps, and steps may have lookups already.  Of a step nothing changes but its
lookups (`Step.AttachedTo`): the lookups that its edges name are resolved anew, each by the last
of its edges, in their places or behind the others; the rest stay as they are.  Whether a lookup is
deferred is a matter of the steps in front.

Attaching the lookups once more changes nothing (`attachLookups_attachLookups`), as the edges of a
step depend on its object only.
-/

namespace StagedLoad

variable {edges : OrderedSet Edge} {loaded : List String}

/-! ## the edges of an object that have targets -/

namespace Edge

/-- the edges from an object that can be resolved, in their order -/
def resolvable (edges : OrderedSet Edge) (object : String) : List Edge :=
  (startingAt edges object).filter fun e => e.targets ≠ []

theorem field_of_resolved {e : Edge} {p : String × Lookup} (h : e.resolved loaded = some p) :
    p.1 = e.field := by
  obtain ⟨hf, _⟩ := resolved_eq_some.mp h
  exact hf.symm

theorem exists_targets {object : String} {e : Edge} (h : e ∈ resolvable edges object) :
    ∃ target others, e.targets = target :: others :=
  List.exists_cons_of_ne_nil (of_decide_eq_true (List.mem_filter.mp h).2)

theorem filterMap_resolved (loaded : List String) (object : String) :
    (startingAt edges object).filterMap (resolved loaded) =
      (resolvable edges object).filterMap (resolved loaded) := by
  rw [resolvable, List.filterMap_filter]
  refine List.filterMap_congr fun e _ => ?_
  cases ht : e.targets with
  | nil => rw [resolved, ht]; rfl
  | cons target others => rfl

theorem names_resolved (loaded : List String) (object : String) :
    ((resolvable edges object).filterMap (resolved loaded)).map Prod.fst =
      (resolvable edges object).map field := by
  have hr : ∀ e ∈ resolvable edges object, (e.resolved loaded).map Prod.fst = some e.field := by
    intro e he
    obtain ⟨target, others, ht⟩ := exists_targets he
    rw [resolved, ht]
    rfl
  rw [List.map_filterMap, List.filterMap_congr hr]
  exact congrFun List.filterMap_eq_map _

end Edge

/-! ## one step -/

/-- what attaching makes of a step, given the steps in front of it: all but the lookups stays;
lookups without edges are kept; the others are resolved by the last of their edges that has
targets; and new ones come behind in the order of the edges -/
structure Step.AttachedTo (s t : Step) (edges : OrderedSet Edge) (front : List Step) : Prop where
  rest : t = { s with lookups := t.lookups }
  names : ∃ new, t.lookups.keys = s.lookups.keys ++ new ∧ FirstOccurrences
    (((Edge.resolvable edges s.object).map Edge.field).filter (· ∉ s.lookups.keys)) new
  kept : ∀ name, (∀ e ∈ Edge.resolvable edges s.object, e.field ≠ name) →
    t.lookups.get? name = s.lookups.get? name
  resolved : ∀ e, LastOf Edge.field (Edge.resolvable edges s.object) e →
    ∃ l, t.lookups.get? e.field = some l ∧ e.targets.head? = some l.table ∧ l.keyField = none ∧
      (l.after = true ↔ ∀ r ∈ front, r.object ≠ l.table)

theorem Step.lookups_attach (s : Step) (edges : OrderedSet Edge) (loaded : List String) :
    (s.attach edges loaded).lookups = s.lookups.putAll
      ((Edge.resolvable edges s.object).filterMap (Edge.resolved loaded)) := by
  rw [← Edge.filterMap_resolved]
  rfl

theorem Step.attachedTo_attach (s : Step) (edges : OrderedSet Edge) {front : List Step}
    (hl : ∀ object, object ∈ loaded ↔ ∃ r ∈ front, r.object = object) :
    s.AttachedTo (s.attach edges loaded) edges front where
  rest := rfl
  names := by
    refine ⟨_, ?_, firstOccurrences_iff.mpr rfl⟩
    rw [s.lookups_attach, Roster.keys_putAll, Edge.names_resolved]
  kept := by
    intro name hn
    have hm : name ∉ ((Edge.resolvable edges s.object).filterMap (Edge.resolved loaded)).map
        Prod.fst := by
      rw [Edge.names_resolved]
      intro hm
      obtain ⟨e, he, hf⟩ := List.mem_map.mp hm
      exact hn e he hf
    rw [s.lookups_attach, Keyed.get?, Roster.find?_putAll_of_not_mem _ hm]
    rfl
  resolved := by
    intro e he
    obtain ⟨target, others, ht⟩ := Edge.exists_targets he.mem
    have hr : e.resolved loaded =
        some (e.field, { table := target, after := !loaded.contains target }) := by
      rw [Edge.resolved, ht]
    have hlast := he.filterMap (fun _ _ => Edge.field_of_resolved) hr
    refine ⟨{ table := target, after := !loaded.contains target }, ?_, by rw [ht]; rfl, rfl, ?_⟩
    · rw [s.lookups_attach, Keyed.get?, Roster.find?_putAll_of_lastOf _ hlast]
      rfl
    · rw [Bool.not_eq_true', ← Bool.not_eq_true, List.contains_iff_mem, hl]
      simp

theorem Step.attach_attach (s : Step) (edges : OrderedSet Edge) (loaded : List String) :
    (s.attach edges loaded).attach edges loaded = s.attach edges loaded :=
  congrArg (fun lookups => { s with lookups := lookups }) (Roster.putAll_putAll s.lookups _)

/-! ## all steps -/

theorem attachLookups_attachLookups (edges : OrderedSet Edge) (loaded : List String)
    (ss : List Step) :
    attachLookups edges loaded (attachLookups edges loaded ss) = attachLookups edges loaded ss := by
  induction ss generalizing loaded with
  | nil => rfl
  | cons s ss ih =>
    rw [attachLookups_cons, attachLookups_cons, Step.attach_attach, Step.object_attach, ih]

theorem narrowings_attachLookups (edges : OrderedSet Edge) (loaded : List String)
    (ss : List Step) : narrowings edges (attachLookups edges loaded ss) = narrowings edges ss := by
  have h : ∀ ts : List Step, narrowings edges ts = (ts.map Step.object).flatMap fun object =>
      (Edge.startingAt edges object).filterMap Edge.narrowing? := fun ts => by
    rw [List.flatMap_map]
    rfl
  rw [h, h, map_object_attachLookups]

/-- **Keeping the order of the declarations takes any steps and any edges.  It touches nothing but
lookups, resolves each by its last edge, and deferred are those whose objects no step in front
loads; and to do it again changes nothing.** -/
theorem declarationOrder_attaches (ss : List Step) (edges : OrderedSet Edge) (rules : List Rule) :
    ∃ ts, (declarationOrder ss edges rules).outcome = .ok ts ∧ ts.length = ss.length ∧
      (∀ (i : Nat) (s : Step), ss[i]? = some s →
        ∃ t, ts[i]? = some t ∧ s.AttachedTo t edges (ss.take i)) ∧
      ∀ rules', declarationOrder ts edges rules' = declarationOrder ss edges rules := by
  refine ⟨attachLookups edges [] ss, rfl, length_attachLookups edges [] ss, fun i s hs => ?_,
    fun _ => ?_⟩
  · refine ⟨_, by rw [getElem?_attachLookups, hs]; rfl, s.attachedTo_attach edges fun object => ?_⟩
    rw [List.append_nil, loadedBefore, List.mem_reverse, List.mem_map]
  · show (⟨_, .ok _⟩ : Journal (List Step)) = ⟨_, .ok _⟩
    rw [narrowings_attachLookups, attachLookups_attachLookups]

/-- accounts in two steps, the first of which has lookups, and contacts between them -/
def stepsInParts : List Step :=
  [{ object := "Account"
     lookups := Roster.ofList [("OwnerId", { table := "User", keyField := some "owner" }),
       ("ParentId", { table := "Partner" })] },
   { object := "Contact" }, { object := "Account" }]

def edgesInParts : OrderedSet Edge := Roster.ofList
  [{ source := "Account", targets := ["Contact", "Account"], field := "MainContact__c" },
   { source := "Account", targets := ["Lead"], field := "ParentId" },
   { source := "Account", targets := [], field := "OwnerId" },
   { source := "Lead", targets := ["Account"], field := "AccountId" },
   { source := "Account", targets := ["Account"], field := "ParentId" }]

theorem declarationOrder_attaches_parts :
    ∃ ts t u, (declarationOrder stepsInParts edgesInParts []).outcome = .ok ts ∧
      ts[0]? = some t ∧ ts[2]? = some u ∧
      t.lookups.toList = [("OwnerId", { table := "User", keyField := some "owner" }),
        ("ParentId", { table := "Account", after := true }),
        ("MainContact__c", { table := "Contact", after := true })] ∧
      u.lookups.toList = [("MainContact__c", { table := "Contact" }),
        ("ParentId", { table := "Account" })] ∧
      (stepsInParts[0]).AttachedTo t edgesInParts [] ∧
      declarationOrder ts edgesInParts [] = declarationOrder stepsInParts edgesInParts [] := by
  obtain ⟨ts, hts, _, ha, hi⟩ := declarationOrder_attaches stepsInParts edgesInParts []
  obtain ⟨t, ht, hat⟩ := ha 0 stepsInParts[0] rfl
  obtain ⟨u, hu, _⟩ := ha 2 stepsInParts[2] rfl
  have hl : (declarationOrder stepsInParts edgesInParts []).outcome.toOption.map
      (fun ts => (ts[0]?.map fun t => t.lookups.toList, ts[2]?.map fun u => u.lookups.toList)) =
        some (some [("OwnerId", { table := "User", keyField := some "owner" }),
            ("ParentId", { table := "Account", after := true }),
            ("MainContact__c", { table := "Contact", after := true })],
          some [("MainContact__c", { table := "Contact" }),
            ("ParentId", { table := "Account" })]) := by
    decide +kernel
  rw [hts, Except.toOption, Option.map_some, ht, hu, Option.some.injEq, Prod.mk.injEq] at hl
  exact ⟨ts, t, u, hts, ht, hu, Option.some.inj hl.1, Option.some.inj hl.2, hat, hi []⟩

end StagedLoad
