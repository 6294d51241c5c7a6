import Mathlib.Data.List.Nodup
import StagedLoad.Proofs.Export.Classified

/-!
# Declarations that differ in spelling

A schema compares names in lower case.  Classification compares some names exactly: the objects
that are exported with the targets of a field, and the record type field with the others.  So two
exports that differ in upper and lower case only are classified alike when these comparisons turn
out alike in both (`SpelledAlike`), and, unless a field is declared twice, only then
(`classifyAll_alike`).
-/

namespace StagedLoad

open Text (lowercase)

/-! ## names in lower case -/

theorem Schema.hasObject_congr (org : Schema) {a b : String} (h : lowercase a = lowercase b) :
    org.hasObject a = org.hasObject b := by
  rw [hasObject, object?, h]
  rfl

theorem Schema.field?_congr (org : Schema) {a b f g : String} (h : lowercase a = lowercase b)
    (hf : lowercase f = lowercase g) : org.field? a f = org.field? b g := by
  rw [field?, object?, h]
  unfold OrgObject.field?
  rw [hf]
  rfl

namespace Roster
variable {α β κ : Type} [DecidableEq κ] {key : α → κ} {key' : β → κ} {R : α → β → Prop}

theorem forall₂_ofList
    (hR : ∀ a b a' b', R a b → R a' b' → (key a = key a' ↔ key' b = key' b')) {as : List α}
    {bs : List β} (h : List.Forall₂ R as bs) :
    List.Forall₂ R (ofList as : Roster key).toList (ofList bs : Roster key').toList := by
  -- one item at a time: it takes the place of an item of its key in both lists or in neither
  have hplace : ∀ {a b as bs}, List.Forall₂ R as bs → R a b →
      List.Forall₂ R (place key a as) (place key' b bs) := by
    intro a b as bs h hab
    induction h with
    | nil => exact .cons hab .nil
    | @cons c d as bs hcd h ih =>
      rw [place_cons, place_cons]
      by_cases hk : key c = key a
      · rw [if_pos hk, if_pos ((hR _ _ _ _ hcd hab).mp hk)]
        exact .cons hab h
      · rw [if_neg hk, if_neg fun e => hk ((hR _ _ _ _ hcd hab).mpr e)]
        exact .cons hcd ih
  exact List.rel_foldl (P := fun (r : Roster key) (r' : Roster key') =>
    List.Forall₂ R r.toList r'.toList) (fun _ _ hr _ _ hab => hplace hr hab) .nil h

end Roster

/-! ## alike -/

inductive FieldUse.Alike : FieldUse → FieldUse → Prop
  | plain : Alike .plain .plain
  | lookup {ts us : List String} (targets : ts.map lowercase = us.map lowercase) :
      Alike (.lookup ts) (.lookup us)
  | dropped {rs ss : List String} : Alike (.dropped rs) (.dropped ss)

/-- the same declaration, up to the spelling of the object and of the fields -/
structure Declaration.Alike (d e : Declaration) : Prop where
  object : lowercase d.object = lowercase e.object
  fields : d.fields.map lowercase = e.fields.map lowercase
  recordType : d.recordType = e.recordType
  filters : d.filters = e.filters

def Classified.lowercaseLookups (c : Classified) : List (String × List String) :=
  c.lookups.toList.map fun p => (lowercase p.1, p.2.map lowercase)

/-- the same classified declaration, up to the spelling of objects and fields -/
structure Classified.Alike (c c' : Classified) : Prop where
  object : lowercase c.object = lowercase c'.object
  fields : c.fields.map lowercase = c'.fields.map lowercase
  lookups : c.lowercaseLookups = c'.lowercaseLookups
  recordType : c.recordType = c'.recordType
  filters : c.filters = c'.filters

/-- two spellings of a field of an object, where the exported objects are spelled in two ways,
come out alike in the comparisons that are exact: both or neither is the record type field,
unless the field is plain anyway, and the same targets are exported -/
structure SpelledAlike (org : OrgView) (object : String) (ex ex' : List String)
    (f g : String) : Prop where
  recordType : (f = recordTypeField ↔ g = recordTypeField) ∨
    ∃ info, org.field? object f = some info ∧ info.references = []
  exported : f ≠ recordTypeField → g ≠ recordTypeField →
    ∀ info, org.field? object f = some info →
      (info.references.filter ex.contains).map lowercase =
        (info.references.filter ex'.contains).map lowercase

instance (org : OrgView) (object : String) (ex ex' : List String) (f g : String) :
    Decidable (SpelledAlike org object ex ex' f g) :=
  match hi : org.field? object f with
  | none => decidable_of_iff (f = recordTypeField ↔ g = recordTypeField)
      ⟨fun h => ⟨Or.inl h, fun _ _ info hj => by rw [hi] at hj; cases hj⟩,
        fun h => h.recordType.resolve_right fun ⟨info, hj, _⟩ => by rw [hi] at hj; cases hj⟩
  | some info => decidable_of_iff
      (((f = recordTypeField ↔ g = recordTypeField) ∨ info.references = []) ∧
        (f ≠ recordTypeField → g ≠ recordTypeField →
          (info.references.filter ex.contains).map lowercase =
            (info.references.filter ex'.contains).map lowercase))
      ⟨fun ⟨hr, he⟩ => ⟨hr.imp_right fun hn => ⟨info, hi, hn⟩, fun hf hg info' hj => by
          rw [hi] at hj
          cases hj
          exact he hf hg⟩,
        fun h => ⟨h.recordType.imp_right fun ⟨info', hj, hn⟩ => by
            rw [hi] at hj
            cases hj
            exact hn,
          fun hf hg => h.exported hf hg info hi⟩⟩

/-- a field that is repeated in one list is repeated at the same places in the other -/
def RepeatedAlike (fs gs : List String) : Prop :=
  ∀ p ∈ fs.zip gs, ∀ q ∈ fs.zip gs, p.1 = q.1 ↔ p.2 = q.2

namespace Declaration
variable {d e : Declaration} {org : Schema} {ex ex' : List String} {f g : String}

/-! ## one field -/

theorem use_alike_iff {info : Field} :
    (info.use ex).Alike (info.use ex') ↔
      (info.references.filter ex.contains).map lowercase =
        (info.references.filter ex'.contains).map lowercase := by
  rw [use_eq, use_eq]
  by_cases hn : info.references = []
  · rw [if_pos hn, if_pos hn, hn]
    exact iff_of_true .plain rfl
  · rw [if_neg hn, if_neg hn]
    by_cases ht : info.references.filter ex.contains = []
    · by_cases hu : info.references.filter ex'.contains = []
      · rw [if_pos ht, if_pos hu, ht, hu]
        exact iff_of_true .dropped rfl
      · rw [if_pos ht, if_neg hu, ht]
        exact iff_of_false (fun h => nomatch h) fun h => hu (List.map_eq_nil_iff.mp h.symm)
    · by_cases hu : info.references.filter ex'.contains = []
      · rw [if_neg ht, if_pos hu, hu]
        exact iff_of_false (fun h => nomatch h) fun h => ht (List.map_eq_nil_iff.mp h)
      · rw [if_neg ht, if_neg hu]
        refine ⟨fun h => ?_, fun h => .lookup h⟩
        cases h with
        | lookup h => exact h

theorem plain_alike_iff {use : FieldUse} : FieldUse.Alike .plain use ↔ use = .plain := by
  refine ⟨fun h => ?_, fun h => h ▸ .plain⟩
  cases h
  rfl

theorem alike_plain_iff {use : FieldUse} : FieldUse.Alike use .plain ↔ use = .plain := by
  refine ⟨fun h => ?_, fun h => h ▸ .plain⟩
  cases h
  rfl

theorem spelledAlike_of_ne {org : OrgView} {object : String}
    (h : ¬ (f = recordTypeField ↔ g = recordTypeField)) :
    SpelledAlike org object ex ex' f g ↔
      ∃ info, org.field? object f = some info ∧ info.references = [] := by
  refine ⟨fun hs => hs.recordType.resolve_left h, fun hi => ⟨Or.inr hi, fun hf hg => ?_⟩⟩
  exact absurd (iff_of_false hf hg) h

/-- a field is put to the same use under both spellings exactly when these are compared alike -/
theorem fieldUse_alike_iff (ho : lowercase d.object = lowercase e.object)
    (hf : lowercase f = lowercase g) :
    BothOrNeither FieldUse.Alike (d.fieldUse org ex f) (e.fieldUse org ex' g) ↔
      SpelledAlike org d.object ex ex' f g := by
  have hg : org.view.field? e.object g = org.view.field? d.object f :=
    (org.field?_congr ho hf).symm
  unfold fieldUse
  rw [hg]
  by_cases hrf : f = recordTypeField
  · by_cases hrg : g = recordTypeField
    · rw [if_pos hrf, if_pos hrg]
      exact iff_of_true (.ok .plain) ⟨Or.inl (iff_of_true hrf hrg), fun h => absurd hrf h⟩
    · -- the field is plain under the one spelling, and under the other if it refers to nothing
      rw [if_pos hrf, if_neg hrg, spelledAlike_of_ne fun h => hrg (h.mp hrf)]
      cases org.view.field? d.object f with
      | none => exact iff_of_false (fun h => nomatch h) fun ⟨_, h, _⟩ => nomatch h
      | some info =>
        rw [BothOrNeither.ok_iff, plain_alike_iff, use_eq_plain]
        simp only [Option.some.injEq, exists_eq_left']
  · by_cases hrg : g = recordTypeField
    · rw [if_neg hrf, if_pos hrg, spelledAlike_of_ne fun h => hrf (h.mpr hrg)]
      cases org.view.field? d.object f with
      | none => exact iff_of_false (fun h => nomatch h) fun ⟨_, h, _⟩ => nomatch h
      | some info =>
        rw [BothOrNeither.ok_iff, alike_plain_iff, use_eq_plain]
        simp only [Option.some.injEq, exists_eq_left']
    · rw [if_neg hrf, if_neg hrg]
      cases hi : org.view.field? d.object f with
      | none =>
        exact iff_of_true (.error _ _) ⟨Or.inl (iff_of_false hrf hrg), fun _ _ info h => by
          rw [hi] at h
          cases h⟩
      | some info =>
        refine BothOrNeither.ok_iff.trans (use_alike_iff.trans ⟨fun h => ?_, fun h => ?_⟩)
        · refine ⟨Or.inl (iff_of_false hrf hrg), fun _ _ info' hi' => ?_⟩
          rw [hi] at hi'
          cases hi'
          exact h
        · exact h.exported hrf hrg info hi

/-! ## one declaration -/

/-- the uses that two declarations make of a field, at the same place in both -/
def UsesAlike (d e : Declaration) (p q : String × FieldUse) : Prop :=
  (p.1, q.1) ∈ d.fields.zip e.fields ∧ p.2.Alike q.2

@[inherit_doc UsesAlike]
def TargetsAlike (d e : Declaration) (p q : String × List String) : Prop :=
  (p.1, q.1) ∈ d.fields.zip e.fields ∧ p.2.map lowercase = q.2.map lowercase

theorem Alike.fields_eq (h : d.Alike e) (hm : (f, g) ∈ d.fields.zip e.fields) :
    lowercase f = lowercase g :=
  List.forall₂_zip (map_eq_map_iff_forall₂.mp h.fields) hm

theorem sorted_alike (h : d.Alike e) (hr : RepeatedAlike d.fields e.fields)
    {us vs : List (String × FieldUse)} (hu : List.Forall₂ (UsesAlike d e) us vs) :
    (d.sorted us).Alike (e.sorted vs) where
  object := h.object
  fields := by
    refine map_eq_map_iff_forall₂.mpr (List.rel_filterMap (fun p q hpq => ?_) hu)
    obtain ⟨hm, ha⟩ := hpq
    obtain ⟨name, use⟩ := p
    obtain ⟨name', use'⟩ := q
    cases ha with
    | plain => exact .some (h.fields_eq hm)
    | lookup _ => exact .none
    | dropped => exact .none
  lookups := by
    refine map_eq_map_iff_forall₂.mpr ?_
    have hl : List.Forall₂ (TargetsAlike d e) (lookupFields us) (lookupFields vs) := by
      refine List.rel_filterMap (fun p q hpq => ?_) hu
      obtain ⟨hm, ha⟩ := hpq
      obtain ⟨name, use⟩ := p
      obtain ⟨name', use'⟩ := q
      cases ha with
      | plain => exact .none
      | lookup ht => exact .some ⟨hm, ht⟩
      | dropped => exact .none
    refine (Roster.forall₂_ofList (fun p q p' q' h h' => ?_) hl).imp fun p q ⟨hm, ht⟩ => ?_
    · exact hr _ h.1 _ h'.1
    · rw [h.fields_eq hm, ht]
  recordType := h.recordType
  filters := h.filters

/-- a declaration is classified alike under two spellings that are compared alike -/
theorem classify_alike (h : d.Alike e) (hr : RepeatedAlike d.fields e.fields)
    (hs : List.Forall₂ (SpelledAlike org d.object ex ex') d.fields e.fields) :
    BothOrNeither Classified.Alike (d.classify org ex).outcome (e.classify org ex').outcome := by
  have ho : org.view.hasObject e.object = org.view.hasObject d.object :=
    (org.hasObject_congr h.object).symm
  rw [outcome_classify, outcome_classify, ho]
  split
  · refine (BothOrNeither.mapM (R := UsesAlike d e) ?_).map fun us vs hu => sorted_alike h hr hu
    refine List.forall₂_iff_zip.mpr ⟨hs.length_eq, fun {f g} hm => ?_⟩
    have hu := (fieldUse_alike_iff h.object (h.fields_eq hm)).mpr (List.forall₂_zip hs hm)
    exact hu.map fun _ _ ha => ⟨hm, ha⟩
  · exact .error _ _

section
variable {c c' : Classified} (hn : (d.fields.map lowercase).Nodup)
  (hc : (d.classify org ex).outcome = .ok c)
include hn hc

/-- the use of a field that no other spelling is declared of can be read off what is classified -/
theorem use_of_classify (hf : f ∈ d.fields) :
    ∃ use, d.fieldUse org ex f = .ok use ∧
      (lowercase f ∈ c.fields.map lowercase ↔ use = .plain) ∧
      ∀ ts, (lowercase f, ts) ∈ c.lowercaseLookups ↔
        ∃ us, use = .lookup us ∧ us.map lowercase = ts := by
  obtain ⟨_, uses, hu, _⟩ := classify_eq_ok.mp hc
  obtain ⟨use, hm⟩ := exists_use hu hf
  have hfu : d.fieldUse org ex f = .ok use := ((mem_uses_iff hu).mp hm).2
  have hinj : ∀ name ∈ d.fields, lowercase name = lowercase f → name = f := fun name hname he =>
    List.inj_on_of_nodup_map hn hname hf he
  refine ⟨use, hfu, ?_, fun ts => ?_⟩
  · rw [List.mem_map]
    refine ⟨fun ⟨name, hp, he⟩ => ?_, fun h => ⟨f, ?_, rfl⟩⟩
    · obtain ⟨hname, hp⟩ := (mem_fields_of_classify hc).mp hp
      rw [hinj name hname he, hfu] at hp
      exact Except.ok.inj hp
    · rw [mem_fields_of_classify hc, hfu, h]
      exact ⟨hf, rfl⟩
  · rw [Classified.lowercaseLookups, List.mem_map]
    refine ⟨fun ⟨⟨name, us⟩, hp, he⟩ => ?_, fun ⟨us, h, hts⟩ => ⟨(f, us), ?_, by rw [hts]⟩⟩
    · obtain ⟨hname, hp⟩ := (mem_lookups_of_classify hc).mp hp
      obtain ⟨he, hts⟩ := Prod.mk.inj he
      rw [hinj name hname he, hfu] at hp
      exact ⟨us, Except.ok.inj hp, hts⟩
    · rw [mem_lookups_of_classify hc, hfu, h]
      exact ⟨hf, rfl⟩

/-- when no field is declared twice, spellings that are classified alike are compared alike -/
theorem spelledAlike_of_classify (h : d.Alike e) (hc' : (e.classify org ex').outcome = .ok c')
    (ha : c.Alike c') : List.Forall₂ (SpelledAlike org d.object ex ex') d.fields e.fields := by
  have hlen : d.fields.length = e.fields.length := by
    rw [← List.length_map lowercase, h.fields, List.length_map]
  have hn' : (e.fields.map lowercase).Nodup := h.fields ▸ hn
  refine List.forall₂_iff_zip.mpr ⟨hlen, fun {f g} hm => ?_⟩
  obtain ⟨hf, hg⟩ := List.of_mem_zip hm
  have he := h.fields_eq hm
  rw [← fieldUse_alike_iff h.object he]
  obtain ⟨use, hu, hp, hl⟩ := use_of_classify hn hc hf
  obtain ⟨use', hu', hp', hl'⟩ := use_of_classify hn' hc' hg
  -- what is in lower case is the same for both
  rw [he, ha.fields, hp'] at hp
  simp only [he, ha.lookups, hl'] at hl
  rw [hu, hu', BothOrNeither.ok_iff]
  cases use with
  | plain =>
    rw [hp.mpr rfl]
    exact .plain
  | lookup ts =>
    obtain ⟨us, rfl, hts⟩ := (hl _).mpr ⟨ts, rfl, rfl⟩
    exact .lookup hts.symm
  | dropped rs =>
    cases use' with
    | plain => exact nomatch hp.mp rfl
    | lookup us =>
      obtain ⟨_, h, _⟩ := (hl _).mp ⟨us, rfl, rfl⟩
      exact nomatch h
    | dropped ss => exact .dropped

end

/-! ## exports -/

section
variable {ds es : List Declaration}

def ComparedAlike (org : OrgView) (ds es : List Declaration) : Prop :=
  List.Forall₂ (fun d e => List.Forall₂ (SpelledAlike org d.object (exported ds) (exported es))
    d.fields e.fields) ds es

/-- two exports are classified alike, or neither is classified -/
def ClassifiedAlike (org : OrgView) (ds es : List Declaration) : Prop :=
  BothOrNeither (List.Forall₂ Classified.Alike) (classifyAll ds org).outcome
    (classifyAll es org).outcome

theorem ClassifiedAlike.lowercaseLookups (h : ClassifiedAlike org ds es) :
    (classifyAll ds org).outcome.toOption.map (List.map Classified.lowercaseLookups) =
      (classifyAll es org).outcome.toOption.map (List.map Classified.lowercaseLookups) := by
  rcases h.error_or_ok with ⟨p, q, hc, hc'⟩ | ⟨cs, cs', hc, hc', ha⟩
  · rw [hc, hc']
    rfl
  · have hl := map_eq_map_iff_forall₂.mpr (ha.imp fun _ _ ha => ha.lookups)
    rw [hc, hc']
    exact congrArg some hl

theorem classifiedAlike_of_comparedAlike (h : List.Forall₂ Alike ds es)
    (hr : List.Forall₂ (fun d e => RepeatedAlike d.fields e.fields) ds es)
    (hs : ComparedAlike org ds es) : ClassifiedAlike org ds es := by
  unfold ClassifiedAlike classifyAll
  rw [Journal.outcome_mapM, Journal.outcome_mapM]
  refine BothOrNeither.mapM (List.forall₂_iff_zip.mpr ⟨h.length_eq, fun {d e} hm => ?_⟩)
  exact classify_alike (List.forall₂_zip h hm) (List.forall₂_zip hr hm) (List.forall₂_zip hs hm)

theorem comparedAlike_of_classifyAll (h : List.Forall₂ Alike ds es)
    (hn : ∀ d ∈ ds, (d.fields.map lowercase).Nodup) {cs cs' : List Classified}
    (hc : (classifyAll ds org).outcome = .ok cs) (hc' : (classifyAll es org).outcome = .ok cs')
    (ha : List.Forall₂ Classified.Alike cs cs') : ComparedAlike org ds es := by
  refine List.forall₂_iff_zip.mpr ⟨h.length_eq, fun {d e} hm => ?_⟩
  have hd : d ∈ ds := (List.of_mem_zip hm).1
  have halike : d.Alike e := List.forall₂_zip h hm
  obtain ⟨i, hi⟩ := List.getElem?_of_mem hm
  obtain ⟨hdi, hei⟩ := List.getElem?_zip_eq_some.mp hi
  obtain ⟨c, hci, hdc⟩ := exists_getElem?_right (classifyAll_eq_ok.mp hc) hdi
  obtain ⟨c', hci', hec⟩ := exists_getElem?_right (classifyAll_eq_ok.mp hc') hei
  obtain ⟨c'', hci'', hcc⟩ := exists_getElem?_right ha hci
  rw [hci'] at hci''
  obtain rfl := Option.some.inj hci''
  exact spelledAlike_of_classify (hn d hd) hdc halike hec hcc

theorem repeatedAlike_of_nodup (h : d.Alike e) (hn : (d.fields.map lowercase).Nodup) :
    RepeatedAlike d.fields e.fields := by
  have hn' : (e.fields.map lowercase).Nodup := h.fields ▸ hn
  intro p hp q hq
  have hlp : lowercase p.1 = lowercase p.2 := h.fields_eq hp
  have hlq : lowercase q.1 = lowercase q.2 := h.fields_eq hq
  obtain ⟨hp1, hp2⟩ := List.of_mem_zip hp
  obtain ⟨hq1, hq2⟩ := List.of_mem_zip hq
  refine ⟨fun he => List.inj_on_of_nodup_map hn' hp2 hq2 ?_,
    fun he => List.inj_on_of_nodup_map hn hp1 hq1 ?_⟩
  · rw [← hlp, ← hlq, he]
  · rw [hlp, hlq, he]

/-- two exports that differ in spelling only are classified alike when their fields are compared
alike and repeated alike; when no field is declared twice, exactly when their fields are compared
alike or neither can be classified.  The fields that are kept as lookups are those, other than the
record type field as it is spelled, of which a target is declared as the schema spells it. -/
theorem classifyAll_alike (org : Schema) (h : List.Forall₂ Alike ds es) :
    (List.Forall₂ (fun d e => RepeatedAlike d.fields e.fields) ds es → ComparedAlike org ds es →
      ClassifiedAlike org ds es) ∧
    ((∀ d ∈ ds, (d.fields.map lowercase).Nodup) →
      (ClassifiedAlike org ds es ↔ ComparedAlike org ds es ∨
        (∃ p, (classifyAll ds org).outcome = .error p) ∧
          ∃ p, (classifyAll es org).outcome = .error p)) ∧
    ∀ cs, (classifyAll ds org).outcome = .ok cs → List.Forall₂ (fun d c => ∀ field,
      field ∈ c.lookups.keys ↔ field ∈ d.fields ∧ field ≠ recordTypeField ∧
        ∃ info, org.field? d.object field = some info ∧
          ∃ target ∈ info.references, target ∈ exported ds) ds cs := by
  refine ⟨classifiedAlike_of_comparedAlike h, fun hn => ⟨fun ha => ?_, fun hs => ?_⟩,
    fun cs hcs => ?_⟩
  · rcases ha.error_or_ok with ⟨p, q, hc, hc'⟩ | ⟨cs, cs', hc, hc', ha⟩
    · exact Or.inr ⟨⟨p, hc⟩, q, hc'⟩
    · exact Or.inl (comparedAlike_of_classifyAll h hn hc hc' ha)
  · rcases hs with hs | ⟨⟨p, hp⟩, q, hq⟩
    · refine classifiedAlike_of_comparedAlike h ?_ hs
      refine List.forall₂_iff_zip.mpr ⟨h.length_eq, fun {d e} hm => ?_⟩
      exact repeatedAlike_of_nodup (List.forall₂_zip h hm) (hn d (List.of_mem_zip hm).1)
    · unfold ClassifiedAlike
      rw [hp, hq]
      exact .error p q
  · exact (classifyAll_eq_ok.mp hcs).imp fun d c hc field => mem_keys_lookups_of_classify hc

def referringOrg : Schema := .ofObjects
  [.ofFields "Account" [{ name := "Name" }],
    .ofFields "Contact" [{ name := "LastName" },
      { name := "AccountId", references := ["Account"] }]]

def accountsAndContacts (account contact : String) : List Declaration :=
  [{ object := account, fields := ["Name"] },
    { object := contact, fields := ["LastName", "AccountId"] }]

/-- no field refers to contacts, so contacts may be spelled in any way -/
theorem classifyAll_alike_spelled_contacts :
    List.Forall₂ Alike (accountsAndContacts "Account" "Contact")
      (accountsAndContacts "Account" "CONTACT") ∧
    ClassifiedAlike referringOrg (accountsAndContacts "Account" "Contact")
      (accountsAndContacts "Account" "CONTACT") := by
  have h : List.Forall₂ Alike (accountsAndContacts "Account" "Contact")
      (accountsAndContacts "Account" "CONTACT") :=
    .cons ⟨rfl, rfl, rfl, rfl⟩ (.cons ⟨by decide +kernel, rfl, rfl, rfl⟩ .nil)
  refine ⟨h, (classifyAll_alike referringOrg h).1 ?_ ?_⟩
  · unfold RepeatedAlike
    decide +kernel
  · unfold ComparedAlike
    decide +kernel

theorem not_classifiedAlike_spelled_accounts :
    List.Forall₂ Alike (accountsAndContacts "Account" "Contact")
      (accountsAndContacts "account" "Contact") ∧
    ¬ ClassifiedAlike referringOrg (accountsAndContacts "Account" "Contact")
      (accountsAndContacts "account" "Contact") := by
  refine ⟨.cons ⟨by decide +kernel, rfl, rfl, rfl⟩ (.cons ⟨rfl, rfl, rfl, rfl⟩ .nil), fun h => ?_⟩
  have hl := h.lowercaseLookups
  revert hl
  decide +kernel

end

end Declaration

end StagedLoad
