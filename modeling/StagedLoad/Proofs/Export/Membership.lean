import Mathlib.Data.List.OfFn
import Mathlib.Logic.Equiv.Basic
import StagedLoad.Proofs.Export.Partition

/-!
# The members of an export

Of the names of the exported objects, classification asks only which objects are among them.  So
neither their order nor their repetitions matter (`classify_congr`).  When more objects are
exported, a declaration that is refused is refused with the same problem, and one that is
classified keeps its plain fields and its lookups, which may get company and further targets
(`classify_of_subset`).  And declarations in another order are classified alike, in that order
(`classifyAll_permuted`).
-/

namespace StagedLoad

variable {ε α β : Type}

/-! ## lists in another order -/

/-- the second list holds at place `i` what the first one holds at place `σ i` -/
def Permuted {n : Nat} (σ : Equiv.Perm (Fin n)) (as bs : List α) : Prop :=
  ∃ f : Fin n → α, as = List.ofFn f ∧ bs = List.ofFn (f ∘ σ)

section
variable {n : Nat} {σ : Equiv.Perm (Fin n)} {as bs : List α}

theorem Permuted.mem_iff (h : Permuted σ as bs) (a : α) : a ∈ bs ↔ a ∈ as := by
  obtain ⟨f, rfl, rfl⟩ := h
  rw [List.mem_ofFn, List.mem_ofFn]
  exact ⟨fun ⟨i, hi⟩ => ⟨σ i, hi⟩, fun ⟨i, hi⟩ => ⟨σ.symm i, by simpa using hi⟩⟩

theorem mapM_ofFn {f : Fin n → α} {g : Fin n → β} {step : α → Except ε β}
    (h : ∀ i, step (f i) = .ok (g i)) : (List.ofFn f).mapM step = .ok (List.ofFn g) := by
  rw [mapM_eq_ok, List.forall₂_iff_get]
  refine ⟨by simp, fun i hi hi' => ?_⟩
  simpa using h _

theorem BothOrNeither.mapM_permuted (h : Permuted σ as bs) (step : α → Except ε β) :
    BothOrNeither (Permuted σ) (as.mapM step) (bs.mapM step) := by
  by_cases hs : ∀ a ∈ as, ∃ b, step a = .ok b
  · obtain ⟨f, rfl, rfl⟩ := h
    rw [List.forall_mem_ofFn_iff] at hs
    choose g hg using hs
    have hσ : ∀ i, step ((f ∘ σ) i) = .ok ((g ∘ σ) i) := fun i => hg (σ i)
    rw [mapM_ofFn hg, mapM_ofFn hσ]
    exact .ok ⟨g, rfl, rfl⟩
  · -- what fails in one order is met in the other too
    have hbs : ¬ ∃ cs, bs.mapM step = .ok cs := by
      rw [exists_mapM_iff]
      intro hs'
      exact hs fun a ha => hs' a ((h.mem_iff a).mpr ha)
    exact .of_not_ok (exists_mapM_iff.not.mpr hs) hbs

end

/-! ## the same members -/

namespace Declaration
variable {ex ex' : List String} {d : Declaration} {org : OrgView}

theorem use_congr (h : ∀ name, name ∈ ex ↔ name ∈ ex') (f : Field) : f.use ex = f.use ex' := by
  have hc : ex.contains = ex'.contains := by
    funext name
    rw [Bool.eq_iff_iff, List.contains_iff_mem, List.contains_iff_mem, h]
  rw [Field.use, hc]
  rfl

theorem classify_congr (h : ∀ name, name ∈ ex ↔ name ∈ ex') (d : Declaration) (org : OrgView) :
    d.classify org ex = d.classify org ex' := by
  have hu : d.fieldUse org ex = d.fieldUse org ex' := by
    funext field
    simp only [fieldUse, use_congr h]
  have hs : d.sortField org ex = d.sortField org ex' := by
    funext field
    rw [sortField, hu]
    rfl
  rw [classify, hs]
  rfl

theorem exported_permuted {n : Nat} {σ : Equiv.Perm (Fin n)} {ds es : List Declaration}
    (h : Permuted σ ds es) (name : String) : name ∈ exported ds ↔ name ∈ exported es := by
  simp only [mem_exported_iff, h.mem_iff]

theorem classifyAll_permuted {n : Nat} {σ : Equiv.Perm (Fin n)} {ds es : List Declaration}
    (h : Permuted σ ds es) (org : OrgView) :
    BothOrNeither (Permuted σ) (classifyAll ds org).outcome (classifyAll es org).outcome := by
  have hs : ∀ d : Declaration, d.classify org (exported es) = d.classify org (exported ds) :=
    fun d => (classify_congr (exported_permuted h) d org).symm
  rw [classifyAll, classifyAll, Journal.outcome_mapM, Journal.outcome_mapM]
  simp only [hs]
  exact .mapM_permuted h _

end Declaration

/-! ## more members -/

/-- the second is the first with perhaps more lookups, and more targets of the lookups of both -/
structure Classified.Grows (c c' : Classified) : Prop where
  object : c'.object = c.object
  fields : c'.fields = c.fields
  lookups : c.lookups.keys.Sublist c'.lookups.keys
  targets : ∀ field ts ts', (field, ts) ∈ c.lookups.toList → (field, ts') ∈ c'.lookups.toList →
    ts.Sublist ts'
  recordType : c'.recordType = c.recordType
  filters : c'.filters = c.filters

namespace Declaration
variable {ex ex' : List String} {d : Declaration} {org : OrgView} {c c' : Classified}

theorem exportedTargets_sublist (h : ex ⊆ ex') (d : Declaration) (org : OrgView)
    (field : String) :
    (d.exportedTargets org ex field).Sublist (d.exportedTargets org ex' field) := by
  unfold exportedTargets
  split
  · next f _ =>
    refine List.monotone_filter_right _ fun target ht => ?_
    exact decide_eq_true (h (of_decide_eq_true ht))
  · exact List.Sublist.refl []

theorem isLookupInto_of_subset (h : ex ⊆ ex') {field : String}
    (hl : d.isLookupInto org ex field = true) : d.isLookupInto org ex' field = true := by
  rw [isLookupInto, Bool.and_eq_true] at hl ⊢
  refine ⟨hl.1, ?_⟩
  have hs := exportedTargets_sublist h d org field
  cases he : d.exportedTargets org ex' field with
  | nil =>
    rw [he, List.sublist_nil] at hs
    rw [hs] at hl
    exact hl.2
  | cons target targets => rfl

theorem keys_lookupsInto_sublist (h : ex ⊆ ex') (d : Declaration) (org : OrgView) :
    (d.lookupsInto org ex).keys.Sublist (d.lookupsInto org ex').keys := by
  rw [keys_lookupsInto, keys_lookupsInto, eraseDups_filter, eraseDups_filter]
  exact List.monotone_filter_right _ fun _ hl => isLookupInto_of_subset h hl

theorem grows_of_subset (h : ex ⊆ ex') (hc : (d.classify org ex).outcome = .ok c)
    (hc' : (d.classify org ex').outcome = .ok c') : c.Grows c' where
  object := (object_of_classify hc').trans (object_of_classify hc).symm
  fields := (fields_of_classify hc').trans (fields_of_classify hc).symm
  recordType := (recordType_of_classify hc').trans (recordType_of_classify hc).symm
  filters := (filters_of_classify hc').trans (filters_of_classify hc).symm
  lookups := by
    rw [lookups_of_classify hc, lookups_of_classify hc']
    exact keys_lookupsInto_sublist h d org
  targets := by
    intro field ts ts' hm hm'
    rw [eq_exportedTargets ((mem_lookups_of_classify hc).mp hm).2,
      eq_exportedTargets ((mem_lookups_of_classify hc').mp hm').2]
    exact exportedTargets_sublist h d org field

/-- whether a declaration is refused, and why, does not depend on the export -/
theorem classify_of_subset (h : ex ⊆ ex') (d : Declaration) (org : OrgView) :
    (∃ p, (d.classify org ex).outcome = .error p ∧ (d.classify org ex').outcome = .error p) ∨
    ∃ c c', (d.classify org ex).outcome = .ok c ∧ (d.classify org ex').outcome = .ok c' ∧
      c.Grows c' := by
  cases hc : (d.classify org ex).outcome with
  | error p => exact Or.inl ⟨p, rfl, classify_eq_error.mpr (classify_eq_error.mp hc)⟩
  | ok c =>
    obtain ⟨c', hc'⟩ : ∃ c', (d.classify org ex').outcome = .ok c' :=
      exists_classify_iff.mpr (exists_classify_iff.mp ⟨c, hc⟩)
    exact Or.inr ⟨c, c', rfl, hc', grows_of_subset h hc hc'⟩

/-! ## the law -/

/-- **Classification depends on the members of the export only, and grows with them; so
declarations in another order are classified alike, in that order.** -/
theorem classify_of_members (org : OrgView) :
    (∀ (d : Declaration) (ex ex' : List String), (∀ name, name ∈ ex ↔ name ∈ ex') →
      d.classify org ex = d.classify org ex') ∧
    (∀ (d : Declaration) (ex ex' : List String), ex ⊆ ex' →
      (∃ p, (d.classify org ex).outcome = .error p ∧ (d.classify org ex').outcome = .error p) ∨
      ∃ c c', (d.classify org ex).outcome = .ok c ∧ (d.classify org ex').outcome = .ok c' ∧
        c.Grows c') ∧
    ∀ (n : Nat) (σ : Equiv.Perm (Fin n)) (ds es : List Declaration), Permuted σ ds es →
      BothOrNeither (Permuted σ) (classifyAll ds org).outcome (classifyAll es org).outcome :=
  ⟨fun d _ _ h => classify_congr h d org, fun d _ _ h => classify_of_subset h d org,
    fun _ _ _ _ h => classifyAll_permuted h org⟩

/-- users and contacts that are exported too bring in a lookup and a target, in the order of the
event and of its org; and it does not matter how they are listed, nor where the event is -/
theorem classify_of_members_events :
    let d := event ["WhatId", "Subject", "OwnerId"]
    let e := event ["Subject"]
    (∃ c c', (d.classify eventOrg ["Account"]).outcome = .ok c ∧
      (d.classify eventOrg ["User", "Contact", "Account"]).outcome = .ok c' ∧
      c.lookups.toList = [("WhatId", ["Account"])] ∧
      c'.lookups.toList = [("WhatId", ["Account", "Contact"]), ("OwnerId", ["User"])] ∧
      c.Grows c') ∧
    d.classify eventOrg ["User", "Contact", "Account"] =
      d.classify eventOrg ["Account", "User", "Account", "Contact"] ∧
    ∃ cs cs', (classifyAll [d, e] eventOrg).outcome = .ok cs ∧
      (classifyAll [e, d] eventOrg).outcome = .ok cs' ∧
        Permuted (Equiv.swap (0 : Fin 2) 1) cs cs' := by
  intro d e
  refine ⟨?_, (classify_of_members eventOrg).1 _ _ _ fun name => ?_, ?_⟩
  · have hl : ((d.classify eventOrg ["Account"]).outcome.toOption.map fun c => c.lookups.toList) =
        some [("WhatId", ["Account"])] := by decide +kernel
    have hl' : ((d.classify eventOrg ["User", "Contact", "Account"]).outcome.toOption.map
        fun c => c.lookups.toList) =
          some [("WhatId", ["Account", "Contact"]), ("OwnerId", ["User"])] := by decide +kernel
    obtain ⟨c, hc, hl⟩ := toOption_map_eq_some.mp hl
    obtain ⟨c', hc', hl'⟩ := toOption_map_eq_some.mp hl'
    rcases (classify_of_members eventOrg).2.1 d ["Account"] ["User", "Contact", "Account"]
        (by simp) with ⟨p, hp, _⟩ | ⟨c₁, c₁', h, h', hg⟩
    · rw [hc] at hp
      cases hp
    · rw [hc] at h
      rw [hc'] at h'
      cases h
      cases h'
      exact ⟨c, c', hc, hc', hl, hl', hg⟩
  · simp only [List.mem_cons, List.not_mem_nil, or_false]
    tauto
  · have hs : (classifyAll [d, e] eventOrg).outcome.toOption.isSome = true := by decide +kernel
    have hp : Permuted (Equiv.swap (0 : Fin 2) 1) [d, e] [e, d] := ⟨[d, e].get, rfl, rfl⟩
    rcases ((classify_of_members eventOrg).2.2 _ _ _ _ hp).error_or_ok with ⟨p, _, hp, _⟩ | h
    · rw [hp] at hs
      cases hs
    · exact h

end Declaration

end StagedLoad
