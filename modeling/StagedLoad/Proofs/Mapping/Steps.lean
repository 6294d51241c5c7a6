import Mathlib.Data.List.Nodup
import StagedLoad.Mapping.Generation
import StagedLoad.Proofs.Export.Classified

/-!
# The steps of a generated mapping

Adding steps one after the other succeeds exactly when no object is met twice, and then the
mapping holds the steps as they are given, each under its own object (`pushAll_of_nodup`,
`pushAll_of_not_nodup`).  So a generated mapping is the list of its declarations, classified, with
the lookups attached that their edges resolve to (`generate_eq_ok`).
-/

namespace StagedLoad

/-! ## steps under the names of their objects -/

namespace Mapping

def filed (s : Step) : String × Step := (s.object, s)

theorem map_snd_filed (ss : List Step) : (ss.map filed).map Prod.snd = ss := by
  rw [List.map_map]
  exact List.map_id ss

theorem keys_insert {m : Mapping} {s : Step} (h : s.object ∉ m.steps.keys) :
    (m.steps.insert s.object s).keys = m.steps.keys ++ [s.object] :=
  Roster.keys_put_of_not_mem (a := filed s) h

theorem pushAll_of_nodup {m : Mapping} {ss : List Step}
    (h : (m.steps.keys ++ ss.map Step.object).Nodup) :
    ∃ n, m.pushAll ss = .ok n ∧ n.steps.toList = m.steps.toList ++ ss.map filed := by
  induction ss generalizing m with
  | nil => exact ⟨m, pushAll_nil m, by simp⟩
  | cons s ss ih =>
    -- the object of the first step is new, and those of the others are new behind it
    have hs : s.object ∉ m.steps.keys := by
      rw [List.nodup_append] at h
      exact fun hm => h.2.2 _ hm _ (by simp) rfl
    have hn : ((m.steps.insert s.object s).keys ++ ss.map Step.object).Nodup := by
      rw [keys_insert hs, List.append_assoc]
      exact h
    obtain ⟨n, hp, ht⟩ := ih (m := { steps := m.steps.insert s.object s }) hn
    refine ⟨n, ?_, ?_⟩
    · rw [pushAll_cons, push_of_not_mem hs]
      exact hp
    · have hl : (m.steps.insert s.object s).toList = m.steps.toList ++ [filed s] :=
        Roster.toList_put_of_not_mem (a := filed s) hs
      rw [ht, hl, List.append_assoc]
      rfl

theorem pushAll_of_not_nodup {m : Mapping} {ss : List Step}
    (h : ¬ (m.steps.keys ++ ss.map Step.object).Nodup) :
    ∃ object, m.pushAll ss = .error (.repeatedStep object) := by
  induction ss generalizing m with
  | nil =>
    rw [List.map_nil, List.append_nil] at h
    exact absurd m.steps.nodup_keys h
  | cons s ss ih =>
    rw [pushAll_cons]
    by_cases hs : s.object ∈ m.steps.keys
    · rw [push_of_mem hs]
      exact ⟨s.object, rfl⟩
    · have hn : ¬ ((m.steps.insert s.object s).keys ++ ss.map Step.object).Nodup := by
        rw [keys_insert hs, List.append_assoc]
        exact h
      rw [push_of_not_mem hs]
      exact ih (m := { steps := m.steps.insert s.object s }) hn

theorem ofSteps_of_nodup {ss : List Step} (h : (ss.map Step.object).Nodup) :
    ∃ m, ofSteps ss = .ok m ∧ m.steps.toList = ss.map filed :=
  pushAll_of_nodup (m := {}) h

theorem ofSteps_of_not_nodup {ss : List Step} (h : ¬ (ss.map Step.object).Nodup) :
    ∃ object, ofSteps ss = .error (.repeatedStep object) :=
  pushAll_of_not_nodup (m := {}) h

theorem ofSteps_eq_ok {ss : List Step} {m : Mapping} :
    ofSteps ss = .ok m ↔ (ss.map Step.object).Nodup ∧ m.steps.toList = ss.map filed := by
  by_cases h : (ss.map Step.object).Nodup
  · obtain ⟨n, hn, ht⟩ := ofSteps_of_nodup h
    rw [hn]
    refine ⟨fun e => ?_, fun ⟨_, e⟩ => ?_⟩
    · cases e
      exact ⟨h, ht⟩
    · have hs : n.steps = m.steps := Roster.ext (ht.trans e.symm)
      cases n
      cases m
      cases hs
      rfl
  · obtain ⟨object, hp⟩ := ofSteps_of_not_nodup h
    rw [hp]
    refine ⟨fun e => ?_, fun ⟨h', _⟩ => absurd h' h⟩
    cases e

end Mapping

/-! ## attaching lookups -/

section
variable {edges : OrderedSet Edge}

theorem Edge.resolved_eq_some {loaded : List String} {e : Edge} {field : String} {l : Lookup} :
    e.resolved loaded = some (field, l) ↔
      e.field = field ∧ ∃ t ts, e.targets = t :: ts ∧
        l = { table := t, after := !loaded.contains t } := by
  unfold Edge.resolved
  split
  · next h => simp [h]
  · next t ts h =>
    rw [h]
    refine ⟨fun he => ?_, fun ⟨hf, t', ts', ht, hl⟩ => ?_⟩
    · cases he
      exact ⟨rfl, t, ts, rfl, rfl⟩
    · cases ht
      rw [hf, hl]

theorem Step.mem_lookups_attach {s : Step} {loaded : List String} {field : String} {l : Lookup}
    (h : (field, l) ∈ (s.attach edges loaded).lookups.toList) :
    (field, l) ∈ s.lookups.toList ∨
      ∃ e ∈ Edge.startingAt edges s.object, e.resolved loaded = some (field, l) := by
  rcases Roster.mem_of_mem_putAll h with h | h
  · exact Or.inl h
  · obtain ⟨e, he, hr⟩ := List.mem_filterMap.mp h
    exact Or.inr ⟨e, he, hr⟩

/-- the objects loaded before the step at place `i`, last first -/
def loadedBefore (ss : List Step) (i : Nat) : List String := ((ss.take i).map Step.object).reverse

theorem getElem?_attachLookups (edges : OrderedSet Edge) (loaded : List String) (ss : List Step)
    (i : Nat) :
    (attachLookups edges loaded ss)[i]? =
      ss[i]?.map fun s => s.attach edges (loadedBefore ss i ++ loaded) := by
  induction ss generalizing loaded i with
  | nil => rfl
  | cons s ss ih =>
    rw [attachLookups_cons]
    cases i with
    | zero => rfl
    | succ i =>
      rw [List.getElem?_cons_succ, List.getElem?_cons_succ, ih]
      simp [loadedBefore]

theorem Edge.mem_startingAt_discover {cs : List Classified} {object : String} {e : Edge} :
    e ∈ Edge.startingAt (Edge.discover cs) object →
      ∃ c ∈ cs, c.object = object ∧ (e.field, e.targets) ∈ c.lookups.toList := by
  intro h
  have hs := Edge.startingAt_source h
  have hm : e ∈ cs.flatMap Edge.ofClassified :=
    Roster.mem_of_mem_ofList (List.mem_filter.mp h).1
  obtain ⟨c, hc, he⟩ := List.mem_flatMap.mp hm
  obtain ⟨⟨field, ts⟩, hf, rfl⟩ := List.mem_map.mp he
  exact ⟨c, hc, hs, hf⟩

end

/-! ## generated mappings -/

namespace Mapping
variable {ds : List Declaration} {org : OrgView} {rules : List Rule} {m : Mapping}

def stepsOf (cs : List Classified) : List Step :=
  attachLookups (Edge.discover cs) [] (cs.map Step.ofClassified)

theorem objects_stepsOf (cs : List Classified) :
    (stepsOf cs).map Step.object = cs.map Classified.object := by
  rw [stepsOf, map_object_attachLookups, List.map_map]
  rfl

theorem getElem?_stepsOf (cs : List Classified) (i : Nat) :
    (stepsOf cs)[i]? = cs[i]?.map fun c =>
      (Step.ofClassified c).attach (Edge.discover cs)
        ((cs.take i).map Classified.object).reverse := by
  rw [stepsOf, getElem?_attachLookups, List.getElem?_map, Option.map_map]
  congr 1
  funext c
  simp [loadedBefore, Step.ofClassified, Function.comp_def]

theorem getElem?_stepsOf_eq_some {cs : List Classified} {i : Nat} {s : Step} :
    (stepsOf cs)[i]? = some s ↔ ∃ c, cs[i]? = some c ∧
      (Step.ofClassified c).attach (Edge.discover cs)
        ((cs.take i).map Classified.object).reverse = s := by
  rw [getElem?_stepsOf, Option.map_eq_some_iff]

/-- a mapping that keeps the order of the declarations is made exactly when all of them can be
classified and no object is declared twice -/
theorem generate_eq_ok :
    (generate ds org declarationOrder rules).outcome = .ok m ↔
      ∃ cs, (Declaration.classifyAll ds org).outcome = .ok cs ∧
        (cs.map Classified.object).Nodup ∧ m.steps.toList = (stepsOf cs).map filed := by
  have hs : ∀ cs, ofSteps (stepsOf cs) = .ok m ↔
      (cs.map Classified.object).Nodup ∧ m.steps.toList = (stepsOf cs).map filed := by
    intro cs
    rw [ofSteps_eq_ok, objects_stepsOf]
  rw [outcome_generate, bind_eq_ok]
  exact exists_congr fun cs => and_congr_right fun _ => hs cs

theorem toList_of_generate (h : (generate ds org declarationOrder rules).outcome = .ok m) :
    ∃ cs, (Declaration.classifyAll ds org).outcome = .ok cs ∧
      (cs.map Classified.object).Nodup ∧ m.toList = stepsOf cs := by
  obtain ⟨cs, hc, hn, ht⟩ := generate_eq_ok.mp h
  refine ⟨cs, hc, hn, ?_⟩
  show m.steps.toList.map Prod.snd = _
  rw [ht, map_snd_filed]

end Mapping

end StagedLoad
