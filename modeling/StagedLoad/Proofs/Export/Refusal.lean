import StagedLoad.Proofs.Export.Classified

/-!
# Declarations that are refused

A declaration is classified when the org knows its object and all its fields, the record type
aside.  Otherwise it is refused for its object, or else for the first unknown field
(`classify_eq_error`).  An export is refused as the first refused declaration is
(`classifyAll_eq_error`).
-/

namespace StagedLoad.Declaration

variable {d : Declaration} {org : OrgView} {ex : List String} {p : Problem}

/-- the org has nothing against a field of the declaration -/
def KnowsField (d : Declaration) (org : OrgView) (field : String) : Prop :=
  field ≠ recordTypeField → ∃ f, org.field? d.object field = some f

structure KnownTo (d : Declaration) (org : OrgView) : Prop where
  object : org.hasObject d.object = true
  fields : ∀ field ∈ d.fields, d.KnowsField org field

/-- the declaration is refused with a problem: the first point at which the org does not know it -/
inductive Refused (d : Declaration) (org : OrgView) : Problem → Prop
  | object (unknown : org.hasObject d.object = false) : Refused d org (.unknownObject d.object)
  | field (before : List String) (field : String) (behind : List String)
      (object : org.hasObject d.object = true) (split : d.fields = before ++ field :: behind)
      (known : ∀ f ∈ before, d.KnowsField org f) (unknown : ¬ d.KnowsField org field) :
      Refused d org (.unknownField d.object field)

theorem KnownTo.not_refused (h : d.KnownTo org) : ¬ d.Refused org p := by
  intro hr
  cases hr with
  | object hn =>
    rw [h.object] at hn
    cases hn
  | field before field behind _ hs _ hn =>
    refine hn (h.fields field ?_)
    rw [hs]
    exact List.mem_append_right _ (List.mem_cons_self ..)

/-! ## one field -/

theorem exists_fieldUse_iff (ex : List String) {field : String} :
    (∃ use, d.fieldUse org ex field = .ok use) ↔ d.KnowsField org field := by
  by_cases hr : field = recordTypeField
  · subst hr
    exact iff_of_true ⟨_, fieldUse_recordTypeField⟩ fun h => absurd rfl h
  · refine ⟨fun ⟨use, h⟩ _ => ?_, fun h => ?_⟩
    · obtain ⟨f, hf, _⟩ := (fieldUse_eq_ok hr).mp h
      exact ⟨f, hf⟩
    · obtain ⟨f, hf⟩ := h hr
      exact ⟨f.use ex, (fieldUse_eq_ok hr).mpr ⟨f, hf, rfl⟩⟩

theorem fieldUse_eq_error {field : String} :
    d.fieldUse org ex field = .error p ↔
      ¬ d.KnowsField org field ∧ p = .unknownField d.object field := by
  by_cases hk : d.KnowsField org field
  · obtain ⟨use, hu⟩ := (exists_fieldUse_iff ex).mpr hk
    rw [hu]
    exact iff_of_false (fun h => nomatch h) fun ⟨hn, _⟩ => hn hk
  · have hr : field ≠ recordTypeField := fun e => hk fun hr => absurd e hr
    have hn : org.field? d.object field = none := by
      rw [Option.eq_none_iff_forall_ne_some]
      exact fun f hf => hk fun _ => ⟨f, hf⟩
    have he : d.fieldUse org ex field = .error (.unknownField d.object field) := by
      rw [fieldUse, if_neg hr, hn]
    rw [he]
    exact ⟨fun h => ⟨hk, (Except.error.inj h).symm⟩, fun ⟨_, h⟩ => congrArg _ h.symm⟩

/-! ## one declaration -/

theorem exists_map_fieldUse_iff {field : String} :
    (∃ use, (d.fieldUse org ex field).map (field, ·) = .ok use) ↔ d.KnowsField org field := by
  rw [← exists_fieldUse_iff ex]
  refine ⟨fun ⟨_, h⟩ => ?_, fun ⟨use, h⟩ => ⟨_, map_eq_ok.mpr ⟨use, h, rfl⟩⟩⟩
  obtain ⟨use, h, _⟩ := map_eq_ok.mp h
  exact ⟨use, h⟩

theorem classify_eq_error : (d.classify org ex).outcome = .error p ↔ d.Refused org p := by
  rw [outcome_classify]
  split
  · next ho =>
    rw [map_eq_error, mapM_eq_error]
    simp only [exists_map_fieldUse_iff, map_eq_error, fieldUse_eq_error]
    constructor
    · rintro ⟨before, field, behind, hs, hk, hn, rfl⟩
      exact .field before field behind ho hs hk hn
    · intro h
      cases h with
      | object hn =>
        rw [ho] at hn
        cases hn
      | field before field behind _ hs hk hn => exact ⟨before, field, behind, hs, hk, hn, rfl⟩
  · next ho =>
    constructor
    · intro h
      cases h
      exact .object (Bool.eq_false_iff.mpr ho)
    · intro h
      cases h with
      | object _ => rfl
      | field _ _ _ ho' => exact absurd ho' ho

theorem exists_classify_iff : (∃ c, (d.classify org ex).outcome = .ok c) ↔ d.KnownTo org := by
  cases hc : (d.classify org ex).outcome with
  | error p =>
    have hr : d.Refused org p := classify_eq_error.mp hc
    exact iff_of_false (fun ⟨_, h⟩ => nomatch h) fun hk => hk.not_refused hr
  | ok c =>
    obtain ⟨ho, uses, hu, _⟩ := classify_eq_ok.mp hc
    refine iff_of_true ⟨c, rfl⟩ ⟨ho, fun field hf => ?_⟩
    obtain ⟨use, hm⟩ := exists_use hu hf
    exact (exists_fieldUse_iff ex).mp ⟨use, (use_of_mem hu hm).2⟩

/-! ## an export -/

/-- the first declaration that the org does not know is refused with the problem -/
def FirstRefused (ds : List Declaration) (org : OrgView) (p : Problem) : Prop :=
  ∃ before d behind, ds = before ++ d :: behind ∧ (∀ e ∈ before, e.KnownTo org) ∧ d.Refused org p

theorem classifyAll_eq_error {ds : List Declaration} :
    (classifyAll ds org).outcome = .error p ↔ FirstRefused ds org p := by
  rw [classifyAll, Journal.outcome_mapM, mapM_eq_error]
  simp only [exists_classify_iff, classify_eq_error]
  rfl

theorem exists_classifyAll_iff {ds : List Declaration} :
    (∃ cs, (classifyAll ds org).outcome = .ok cs) ↔ ∀ d ∈ ds, d.KnownTo org := by
  rw [classifyAll, Journal.outcome_mapM, exists_mapM_iff]
  simp only [exists_classify_iff]

end StagedLoad.Declaration
