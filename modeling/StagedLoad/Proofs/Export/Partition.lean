import StagedLoad.Proofs.Export.Refusal

/-!
# The fields of a declaration in two groups

Classification goes through the declared fields one after the other.  What it comes to is said
here without that.  A declaration is refused for its object, or else for the first field that the
org does not know.  Otherwise its plain fields are the record type and the fields that refer to no
object, as often as they are declared; its lookups are the other fields that refer to an exported
object, each once, and each with those objects (`classify_eq_partition`).
-/

namespace StagedLoad.Declaration

variable {d : Declaration} {org : OrgView} {ex : List String} {field : String}

/-! ## the two groups -/

/-- the record type, or a field that refers to no object -/
def isPlain (d : Declaration) (org : OrgView) (field : String) : Bool :=
  field == recordTypeField || (org.field? d.object field).any fun f => f.references.isEmpty

/-- the exported ones of the objects that a field refers to, in the order of the org -/
def exportedTargets (d : Declaration) (org : OrgView) (ex : List String) (field : String) :
    List String :=
  match org.field? d.object field with
  | some f => f.references.filter fun target => target ∈ ex
  | none => []

/-- a field that is not plain and refers to an exported object -/
def isLookupInto (d : Declaration) (org : OrgView) (ex : List String) (field : String) : Bool :=
  !d.isPlain org field && !(d.exportedTargets org ex field).isEmpty

theorem isPlain_iff :
    d.isPlain org field = true ↔ d.fieldUse org ex field = .ok .plain := by
  rw [fieldUse_eq_plain, isPlain, Bool.or_eq_true, beq_iff_eq, Option.any_eq_true]
  simp only [List.isEmpty_iff]

theorem exportedTargets_of_field? {f : Field} (h : org.field? d.object field = some f) :
    d.exportedTargets org ex field = f.references.filter ex.contains := by
  rw [exportedTargets, h]
  refine List.filter_congr fun target _ => ?_
  rw [Bool.eq_iff_iff, decide_eq_true_iff, List.contains_iff_mem]

theorem eq_exportedTargets {ts : List String}
    (h : d.fieldUse org ex field = .ok (.lookup ts)) : ts = d.exportedTargets org ex field := by
  obtain ⟨_, f, hf, hts, _⟩ := fieldUse_eq_lookup.mp h
  rw [exportedTargets_of_field? hf]
  exact hts

theorem isLookupInto_iff :
    d.isLookupInto org ex field = true ↔
      ∃ ts, d.fieldUse org ex field = .ok (.lookup ts) := by
  rw [isLookupInto, Bool.and_eq_true, Bool.not_eq_true', Bool.not_eq_true', ← Bool.not_eq_true,
    ← Bool.not_eq_true, List.isEmpty_iff]
  constructor
  · rintro ⟨hp, hne⟩
    cases hf : org.field? d.object field with
    | none => exact absurd (by rw [exportedTargets, hf]) hne
    | some f =>
      have hr : field ≠ recordTypeField := fun he => hp (by rw [isPlain, he]; rfl)
      exact ⟨_, fieldUse_eq_lookup.mpr ⟨hr, f, hf, exportedTargets_of_field? hf, hne⟩⟩
  · rintro ⟨ts, h⟩
    refine ⟨fun hp => ?_, ?_⟩
    · rw [isPlain_iff.mp hp] at h
      cases h
    · rw [← eq_exportedTargets h]
      exact (targets_of_fieldUse h).1

theorem not_isPlain_of_isLookupInto (h : d.isLookupInto org ex field = true) :
    ¬ d.isPlain org field = true := by
  rw [isLookupInto, Bool.and_eq_true] at h
  simpa using h.1

section
variable {fields : List String} {uses : List (String × FieldUse)}
  (h : List.Forall₂ (fun field p => (d.fieldUse org ex field).map (field, ·) = .ok p) fields uses)
include h

theorem plainFields_eq_filter : plainFields uses = fields.filter (d.isPlain org) := by
  induction h with
  | nil => rfl
  | @cons field p fields uses hp _ ih =>
    obtain ⟨use, hu, rfl⟩ := map_eq_ok.mp hp
    have hb : d.isPlain org field = decide (use = .plain) := by
      rw [Bool.eq_iff_iff, isPlain_iff, hu, decide_eq_true_iff, Except.ok.injEq]
    rw [List.filter_cons, hb, ← ih]
    cases use <;> rfl

theorem names_lookupFields :
    (lookupFields uses).map Prod.fst = fields.filter (d.isLookupInto org ex) := by
  induction h with
  | nil => rfl
  | @cons field p fields uses hp _ ih =>
    obtain ⟨use, hu, rfl⟩ := map_eq_ok.mp hp
    have hb : d.isLookupInto org ex field = true ↔ ∃ ts, use = .lookup ts := by
      simp only [isLookupInto_iff, hu, Except.ok.injEq]
    rw [List.filter_cons, ← ih]
    cases use with
    | lookup ts =>
      rw [if_pos (hb.mpr ⟨ts, rfl⟩)]
      rfl
    | plain =>
      rw [if_neg fun e => nomatch hb.mp e]
      rfl
    | dropped references =>
      rw [if_neg fun e => nomatch hb.mp e]
      rfl

end

/-! ## one declaration -/

/-- the lookups of a declaration: each once, where it is first declared, with its targets -/
def lookupsInto (d : Declaration) (org : OrgView) (ex : List String) : Keyed (List String) where
  toList := (d.fields.filter (d.isLookupInto org ex)).eraseDups.map fun field =>
    (field, d.exportedTargets org ex field)
  distinct := by
    rw [List.map_map]
    exact (List.map_id _).symm ▸ nodup_eraseDups _

theorem keys_lookupsInto :
    (d.lookupsInto org ex).keys = (d.fields.filter (d.isLookupInto org ex)).eraseDups := by
  show List.map Prod.fst (List.map _ _) = _
  rw [List.map_map]
  exact List.map_id _

section
variable {c : Classified} (h : (d.classify org ex).outcome = .ok c)
include h

theorem fields_of_classify : c.fields = d.fields.filter (d.isPlain org) := by
  obtain ⟨_, uses, hu, rfl⟩ := classify_eq_ok.mp h
  exact plainFields_eq_filter hu

theorem lookups_of_classify : c.lookups = d.lookupsInto org ex := by
  have hk : c.lookups.keys = (d.fields.filter (d.isLookupInto org ex)).eraseDups := by
    obtain ⟨_, uses, hu, rfl⟩ := classify_eq_ok.mp h
    rw [← names_lookupFields hu]
    exact Roster.keys_ofList (lookupFields uses)
  -- the name of a lookup determines its targets
  have hts : ∀ e ∈ c.lookups.toList, (e.1, d.exportedTargets org ex e.1) = e := by
    rintro ⟨field, ts⟩ hm
    rw [← eq_exportedTargets ((mem_lookups_of_classify h).mp hm).2]
  refine Roster.ext ?_
  rw [Roster.toList_eq_map_keys (f := fun name => (name, d.exportedTargets org ex name)) hts, hk]
  rfl

theorem not_mem_keys_lookups (hf : field ∈ c.fields) : field ∉ c.lookups.keys := by
  rw [fields_of_classify h, List.mem_filter] at hf
  rw [lookups_of_classify h, keys_lookupsInto, List.mem_eraseDups, List.mem_filter]
  exact fun hl => not_isPlain_of_isLookupInto hl.2 hf.2

end

/-! ## the first unknown field -/

/-- the first declared field, the record type aside, that the org does not know -/
def unknownField? (d : Declaration) (org : OrgView) : Option String :=
  d.fields.find? fun field => field != recordTypeField && (org.field? d.object field).isNone

theorem knowsField_iff :
    d.KnowsField org field ↔
      ¬ (field != recordTypeField && (org.field? d.object field).isNone) = true := by
  rw [Bool.and_eq_true, bne_iff_ne, not_and, Option.isNone_iff_eq_none]
  exact forall_congr' fun _ => Option.ne_none_iff_exists'.symm

theorem unknownField?_eq_some_iff :
    d.unknownField? org = some field ↔ ∃ before behind, d.fields = before ++ field :: behind ∧
      (∀ f ∈ before, d.KnowsField org f) ∧ ¬ d.KnowsField org field := by
  rw [unknownField?, List.find?_eq_some_iff_append]
  simp only [knowsField_iff, not_not, Bool.not_eq_true', ← Bool.not_eq_true]
  exact ⟨fun ⟨hu, before, behind, hs, hk⟩ => ⟨before, behind, hs, hk, hu⟩,
    fun ⟨before, behind, hs, hk, hu⟩ => ⟨hu, before, behind, hs, hk⟩⟩

theorem unknownField?_eq_none_iff :
    d.unknownField? org = none ↔ ∀ field ∈ d.fields, d.KnowsField org field := by
  rw [unknownField?, List.find?_eq_none]
  simp only [knowsField_iff]

/-! ## the law -/

/-- a declaration with its fields in two groups, or why it is refused -/
def partition (d : Declaration) (org : OrgView) (ex : List String) : Except Problem Classified :=
  if org.hasObject d.object then
    match d.unknownField? org with
    | some field => .error (.unknownField d.object field)
    | none => .ok {
        object := d.object
        fields := d.fields.filter (d.isPlain org)
        lookups := d.lookupsInto org ex
        recordType := d.recordType
        filters := d.filters }
  else .error (.unknownObject d.object)

/-- **A declaration is refused for its object or its first unknown field, or else its fields are
split into plain ones and lookups; no name is both, and every lookup has targets, all of them
exported.** -/
theorem classify_eq_partition (d : Declaration) (org : OrgView) (ex : List String) :
    (d.classify org ex).outcome = d.partition org ex ∧
    ∀ c, (d.classify org ex).outcome = .ok c →
      (∀ field ∈ c.fields, field ∉ c.lookups.keys) ∧
      ∀ field ts, (field, ts) ∈ c.lookups.toList → ts ≠ [] ∧ ∀ t ∈ ts, t ∈ ex := by
  refine ⟨?_, fun c hc => ⟨fun field => not_mem_keys_lookups hc, fun field ts =>
    targets_of_classify hc⟩⟩
  unfold partition
  split
  · next ho =>
    split
    · next field hu =>
      obtain ⟨before, behind, hs, hk, hn⟩ := unknownField?_eq_some_iff.mp hu
      exact classify_eq_error.mpr (.field before field behind ho hs hk hn)
    · next hu =>
      obtain ⟨c, hc⟩ : ∃ c, (d.classify org ex).outcome = .ok c :=
        exists_classify_iff.mpr ⟨ho, unknownField?_eq_none_iff.mp hu⟩
      rw [hc, ← fields_of_classify hc, ← lookups_of_classify hc, ← object_of_classify hc,
        ← recordType_of_classify hc, ← filters_of_classify hc]
  · next ho => exact classify_eq_error.mpr (.object (Bool.eq_false_iff.mpr ho))

def eventOrg : Schema := .ofObjects
  [.ofFields "Event" [{ name := "Subject" },
     { name := "WhatId", references := ["Account", "Opportunity", "Contact"] },
     { name := "OwnerId", references := ["User"] },
     { name := "RecordTypeId", references := ["RecordType"] }]]

def event (fields : List String) : Declaration := { object := "Event", fields := fields }

/-- fields that are declared twice, the record type, a lookup of which some targets are exported and
one of which none is; and a declaration that is refused for the first of two unknown fields -/
theorem classify_eq_partition_events :
    (∃ c, ((event ["WhatId", "Subject", "RecordTypeId", "OwnerId", "WhatId", "Subject"]).classify
        eventOrg ["Contact", "RecordType", "Account"]).outcome = .ok c ∧
      c.fields = ["Subject", "RecordTypeId", "Subject"] ∧
      c.lookups.toList = [("WhatId", ["Account", "Contact"])] ∧
      (∀ field ∈ c.fields, field ∉ c.lookups.keys) ∧
      ∀ field ts, (field, ts) ∈ c.lookups.toList →
        ts ≠ [] ∧ ∀ t ∈ ts, t ∈ ["Contact", "RecordType", "Account"]) ∧
    ((event ["OwnerId", "Id", "Nope__c"]).classify eventOrg []).outcome =
      .error (.unknownField "Event" "Id") := by
  refine ⟨?_, (classify_eq_partition _ _ _).1.trans (by decide +kernel)⟩
  have hc : ((event ["WhatId", "Subject", "RecordTypeId", "OwnerId", "WhatId", "Subject"]).classify
      eventOrg ["Contact", "RecordType", "Account"]).outcome.toOption.map
        (fun c => (c.fields, c.lookups.toList)) =
      some (["Subject", "RecordTypeId", "Subject"], [("WhatId", ["Account", "Contact"])]) := by
    rw [(classify_eq_partition _ _ _).1]
    decide +kernel
  obtain ⟨c, hc, he⟩ := toOption_map_eq_some.mp hc
  obtain ⟨hf, hl⟩ := Prod.mk.inj he
  obtain ⟨hd, ht⟩ := (classify_eq_partition _ _ _).2 c hc
  exact ⟨c, hc, hf, hl, hd, ht⟩

end StagedLoad.Declaration
