import StagedLoad.Proofs.Export.Refusal
import StagedLoad.Proofs.Mapping.Steps

/-!
# When no mapping is generated

Whatever the orderer does, a mapping is generated exactly when the org knows every declaration,
the orderer answers, and no two of the steps that it answers are of one object; the mapping then
holds these steps in their order.  Otherwise the first of these stages that fails says why
(`outcome_generate_iff`).
-/

namespace StagedLoad.Mapping

/-! ## repeated steps -/

/-- the first step whose object has a step before it, behind the objects that have one already,
is a step of `object` -/
def FirstRepeated (objects : List String) (ss : List Step) (object : String) : Prop :=
  ∃ before s behind, ss = before ++ s :: behind ∧ (objects ++ before.map Step.object).Nodup ∧
    s.object ∈ objects ++ before.map Step.object ∧ object = s.object

theorem firstRepeated_cons_of_not_mem {objects : List String} {s : Step} {ss : List Step}
    {object : String} (hs : s.object ∉ objects) :
    FirstRepeated objects (s :: ss) object ↔ FirstRepeated (objects ++ [s.object]) ss object := by
  constructor
  · rintro ⟨before, t, behind, he, hn, hm, ho⟩
    cases before with
    | nil =>
      cases he
      rw [List.map_nil, List.append_nil] at hm
      exact absurd hm hs
    | cons s before =>
      cases he
      refine ⟨before, t, behind, rfl, ?_, ?_, ho⟩
      · rw [List.append_assoc]
        exact hn
      · rw [List.append_assoc]
        exact hm
  · rintro ⟨before, t, behind, rfl, hn, hm, ho⟩
    rw [List.append_assoc] at hn hm
    exact ⟨s :: before, t, behind, rfl, hn, hm, ho⟩

theorem firstRepeated_cons_of_mem {objects : List String} {s : Step} {ss : List Step}
    {object : String} (hn : objects.Nodup) (hs : s.object ∈ objects) :
    FirstRepeated objects (s :: ss) object ↔ object = s.object := by
  constructor
  · rintro ⟨before, t, behind, he, hn, _, ho⟩
    cases before with
    | nil =>
      cases he
      exact ho
    | cons s before =>
      cases he
      rw [List.nodup_append] at hn
      exact absurd rfl (hn.2.2 _ hs _ (List.mem_cons_self ..))
  · intro ho
    refine ⟨[], s, ss, rfl, ?_, ?_, ho⟩
    · rwa [List.map_nil, List.append_nil]
    · rwa [List.map_nil, List.append_nil]

theorem pushAll_eq_error {m : Mapping} {ss : List Step} {p : Problem} :
    m.pushAll ss = .error p ↔
      ∃ object, FirstRepeated m.steps.keys ss object ∧ p = .repeatedStep object := by
  induction ss generalizing m with
  | nil =>
    refine iff_of_false (fun h => nomatch h) ?_
    rintro ⟨object, ⟨before, s, behind, he, _⟩, _⟩
    cases before <;> cases he
  | cons s ss ih =>
    rw [pushAll_cons]
    by_cases hs : s.object ∈ m.steps.keys
    · rw [push_of_mem hs]
      simp only [firstRepeated_cons_of_mem m.steps.nodup_keys hs, exists_eq_left]
      exact ⟨fun h => (Except.error.inj h).symm, fun h => congrArg _ h.symm⟩
    · rw [push_of_not_mem hs]
      simp only [firstRepeated_cons_of_not_mem hs, ← keys_insert hs]
      exact ih (m := { steps := m.steps.insert s.object s })

theorem ofSteps_eq_error {ss : List Step} {p : Problem} :
    ofSteps ss = .error p ↔ ∃ object, FirstRepeated [] ss object ∧ p = .repeatedStep object :=
  pushAll_eq_error (m := {})

/-! ## generation -/

theorem toList_eq_map_filed_iff {m : Mapping} {ss : List Step} :
    m.steps.toList = ss.map filed ↔ m.toList = ss ∧ m.steps.keys = ss.map Step.object := by
  have hk : (ss.map filed).map Prod.fst = ss.map Step.object := List.map_map
  constructor
  · intro h
    refine ⟨?_, ?_⟩
    · show m.steps.toList.map Prod.snd = ss
      rw [h, map_snd_filed]
    · show m.steps.toList.map Prod.fst = _
      rw [h, hk]
  · rintro ⟨ht, hf⟩
    have hm : m.steps.toList = (ss.map Step.object).zip ss := List.zip_of_prod hf ht
    rw [hm]
    exact (List.zip_of_prod hk (map_snd_filed ss)).symm

/-- **A mapping is generated exactly when every declaration is known to the org, the orderer
answers, and the steps that it answers are of distinct objects; it holds these steps in their
order.  Otherwise the problem is that of the first refused declaration, else that of the orderer,
else the first repeated step.** -/
theorem outcome_generate_iff (ds : List Declaration) (org : OrgView) (orderer : Orderer)
    (rules : List Rule) :
    ((∃ cs, (Declaration.classifyAll ds org).outcome = .ok cs) ↔ ∀ d ∈ ds, d.KnownTo org) ∧
    (∀ m, (generate ds org orderer rules).outcome = .ok m ↔
      (∀ d ∈ ds, d.KnownTo org) ∧
      ∃ cs ss, (Declaration.classifyAll ds org).outcome = .ok cs ∧
        (orderer (cs.map Step.ofClassified) (Edge.discover cs) rules).outcome = .ok ss ∧
        (ss.map Step.object).Nodup ∧ m.toList = ss ∧ m.steps.keys = ss.map Step.object) ∧
    ∀ p, (generate ds org orderer rules).outcome = .error p ↔
      Declaration.FirstRefused ds org p ∨
      (∀ d ∈ ds, d.KnownTo org) ∧
      ∃ cs, (Declaration.classifyAll ds org).outcome = .ok cs ∧
        ((orderer (cs.map Step.ofClassified) (Edge.discover cs) rules).outcome = .error p ∨
        ∃ ss, (orderer (cs.map Step.ofClassified) (Edge.discover cs) rules).outcome = .ok ss ∧
          ∃ object, FirstRepeated [] ss object ∧ p = .repeatedStep object) := by
  refine ⟨Declaration.exists_classifyAll_iff, fun m => ?_, fun p => ?_⟩
  · rw [outcome_generate, bind_eq_ok]
    constructor
    · rintro ⟨cs, hc, h⟩
      obtain ⟨ss, ho, h⟩ := bind_eq_ok.mp h
      obtain ⟨hn, ht⟩ := ofSteps_eq_ok.mp h
      exact ⟨Declaration.exists_classifyAll_iff.mp ⟨cs, hc⟩, cs, ss, hc, ho, hn,
        toList_eq_map_filed_iff.mp ht⟩
    · rintro ⟨_, cs, ss, hc, ho, hn, ht⟩
      have hm : ofSteps ss = .ok m := ofSteps_eq_ok.mpr ⟨hn, toList_eq_map_filed_iff.mpr ht⟩
      exact ⟨cs, hc, bind_eq_ok.mpr ⟨ss, ho, hm⟩⟩
  · rw [outcome_generate, bind_eq_error, Declaration.classifyAll_eq_error]
    refine or_congr_right ?_
    simp only [bind_eq_error, ofSteps_eq_error]
    constructor
    · rintro ⟨cs, hc, h⟩
      exact ⟨Declaration.exists_classifyAll_iff.mp ⟨cs, hc⟩, cs, hc, h⟩
    · rintro ⟨_, cs, hc, h⟩
      exact ⟨cs, hc, h⟩

end StagedLoad.Mapping
