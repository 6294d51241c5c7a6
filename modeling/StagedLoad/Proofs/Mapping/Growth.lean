import StagedLoad.Proofs.Export.Membership
import StagedLoad.Proofs.Mapping.Accounting

/-!
# Growing an export

Declaring more objects behind those of an export changes the steps of the earlier declarations in
one way only: fields that were left out, because nothing that they refer to was exported, come in
as lookups, and a lookup that may refer to objects of several kinds may be resolved to another of
them.  All else stays, and a lookup with one possible target keeps its target and its place in the
load (`grows_of_generate`).

What is plain does not depend on the export, and what is a lookup stays one in a larger export
(`lookups_sublist_append`).  Of a lookup, the step says nothing that is not said by the references
of its field and by the declarations in front (`of_mem_lookups`).
-/

namespace StagedLoad

/-! ## fields of a larger export -/

namespace Declaration

theorem exported_append (ds es : List Declaration) :
    exported (ds ++ es) = exported ds ++ exported es := by
  rw [exported, List.map_append, List.filter_append]
  rfl

theorem lookups_sublist_append (d : Declaration) (org : OrgView) (ds es : List Declaration) :
    ((d.fields.filter (d.isLookup org ds)).eraseDups).Sublist
      ((d.fields.filter (d.isLookup org (ds ++ es))).eraseDups) := by
  have h : exported ds ⊆ exported (ds ++ es) := by
    rw [exported_append]
    exact List.subset_append_left ..
  rw [isLookup_eq, isLookup_eq, ← keys_lookupsInto, ← keys_lookupsInto]
  exact keys_lookupsInto_sublist h d org

end Declaration

/-! ## one lookup -/

namespace Mapping
variable {ds : List Declaration} {org : OrgView} {rules : List Rule} {m : Mapping}

theorem of_mem_lookups (h : (generate ds org declarationOrder rules).outcome = .ok m) {i : Nat}
    {s : Step} (hs : m.toList[i]? = some s) {field : String} {l : Lookup}
    (hl : (field, l) ∈ s.lookups.toList) :
    (∃ f, org.field? s.object field = some f ∧ l.table ∈ f.references) ∧ l.keyField = none ∧
      (l.after = false ↔ l.table ∈ (ds.map Declaration.object).take i) := by
  obtain ⟨cs, hcs, hn, ht⟩ := toList_of_generate h
  rw [ht] at hs
  obtain ⟨c, hc, he⟩ := getElem?_stepsOf_eq_some.mp hs
  obtain ⟨ts, hm, hk, ha⟩ := mem_lookups_stepsOf hn hc hs hl
  obtain ⟨d, _, hd⟩ := exists_of_mem_right (Declaration.classifyAll_eq_ok.mp hcs)
    (List.mem_of_getElem? hc)
  have ho : s.object = d.object := by
    rw [← he, Step.object_attach]
    exact Declaration.object_of_classify hd
  obtain ⟨_, hu⟩ := (Declaration.mem_lookups_of_classify hd).mp hm
  obtain ⟨_, f, hf, hts, _⟩ := Declaration.fieldUse_eq_lookup.mp hu
  have hr : l.table ∈ f.references := by
    have hx : l.table ∈ f.references.filter (Declaration.exported ds).contains := by
      rw [← hts]
      exact List.mem_cons_self ..
    exact (List.mem_filter.mp hx).1
  rw [Declaration.objects_of_classifyAll hcs] at ha
  exact ⟨⟨f, ho ▸ hf, hr⟩, hk, ha⟩

end Mapping

/-! ## the law -/

/-- the second step loads what the first one loads, perhaps with more lookups; a lookup whose
field refers to one object only is the same in both -/
structure Step.Grows (org : OrgView) (s t : Step) : Prop where
  object : t.object = s.object
  filters : t.filters = s.filters
  recordType : t.recordType = s.recordType
  fields : s.fields.keys.Sublist t.fields.keys
  lookups : s.lookups.keys.Sublist t.lookups.keys
  kept : ∀ field l, (field, l) ∈ s.lookups.toList → ∀ f, org.field? s.object field = some f →
    (∃ target, ∀ r ∈ f.references, r = target) → (field, l) ∈ t.lookups.toList

theorem Step.Loads.fields_keys {s : Step} {d : Declaration} {org : OrgView}
    {ds : List Declaration} (h : s.Loads d org ds) :
    s.fields.keys = (d.fields.filter (d.isPlain org)).eraseDups ++
      (d.fields.filter (d.isLookup org ds)).eraseDups := by
  rw [Roster.keys, h.fields, List.map_map]
  exact List.map_id _

namespace Mapping
variable {ds es : List Declaration} {org : OrgView} {rules rules' : List Rule} {m n : Mapping}

theorem mem_lookups_of_single (hm : (generate ds org declarationOrder rules).outcome = .ok m)
    (hn : (generate (ds ++ es) org declarationOrder rules').outcome = .ok n) {i : Nat}
    (hi : i < ds.length) {s t : Step} (hs : m.toList[i]? = some s) (ht : n.toList[i]? = some t)
    (ho : t.object = s.object) (hk : s.lookups.keys.Sublist t.lookups.keys) {field : String}
    {l : Lookup} (hl : (field, l) ∈ s.lookups.toList) {f : Field}
    (hf : org.field? s.object field = some f) {target : String}
    (hr : ∀ r ∈ f.references, r = target) : (field, l) ∈ t.lookups.toList := by
  obtain ⟨⟨f₁, hf₁, hr₁⟩, hk₁, ha₁⟩ := of_mem_lookups hm hs hl
  have hkey : field ∈ t.lookups.keys := hk.subset (List.mem_map_of_mem (f := Prod.fst) hl)
  obtain ⟨⟨name, l'⟩, hl', rfl⟩ := List.mem_map.mp hkey
  obtain ⟨⟨f₂, hf₂, hr₂⟩, hk₂, ha₂⟩ := of_mem_lookups hn ht hl'
  rw [hf] at hf₁
  rw [ho, hf] at hf₂
  cases hf₁
  cases hf₂
  have htable : l'.table = l.table := (hr _ hr₂).trans (hr _ hr₁).symm
  -- the declarations in front of this one are the same in both exports
  have htake : ((ds ++ es).map Declaration.object).take i = (ds.map Declaration.object).take i := by
    rw [List.map_append, List.take_append_of_le_length (by simpa using Nat.le_of_lt hi)]
  rw [htable, htake, ← ha₁] at ha₂
  have hafter : l'.after = l.after := by
    rw [Bool.eq_iff_iff, ← not_iff_not, Bool.not_eq_true, Bool.not_eq_true]
    exact ha₂
  have he : l' = l := by
    cases l
    cases l'
    simp only at htable hafter hk₁ hk₂
    rw [htable, hafter, hk₁, hk₂]
  rw [← he]
  exact hl'

/-- **When more is declared behind an export, the steps of its declarations stay in their places
and grow: they lose no field and no lookup, and change no lookup with one possible target.** -/
theorem grows_of_generate (hm : (generate ds org declarationOrder rules).outcome = .ok m)
    (hn : (generate (ds ++ es) org declarationOrder rules').outcome = .ok n) {i : Nat}
    (hi : i < ds.length) :
    ∃ s t, m.toList[i]? = some s ∧ n.toList[i]? = some t ∧ s.Grows org t := by
  have hd : ds[i]? = some ds[i] := List.getElem?_eq_getElem hi
  have hd' : (ds ++ es)[i]? = some ds[i] := by rw [List.getElem?_append_left hi, hd]
  obtain ⟨s, hs, hls⟩ := exists_getElem?_right (loads_of_generate hm) hd
  obtain ⟨t, ht, hlt⟩ := exists_getElem?_right (loads_of_generate hn) hd'
  have hobject : t.object = s.object := hlt.object.trans hls.object.symm
  have hlookups : s.lookups.keys.Sublist t.lookups.keys := by
    rw [hls.lookups, hlt.lookups]
    exact Declaration.lookups_sublist_append ds[i] org ds es
  have hfields : s.fields.keys.Sublist t.fields.keys := by
    rw [hls.fields_keys, hlt.fields_keys]
    exact (List.Sublist.refl _).append (Declaration.lookups_sublist_append ds[i] org ds es)
  refine ⟨s, t, hs, ht, hobject, hlt.filters.trans hls.filters.symm,
    hlt.recordType.trans hls.recordType.symm, hfields, hlookups, ?_⟩
  intro field l hl f hf ⟨target, hr⟩
  exact mem_lookups_of_single hm hn hi hs ht hobject hlookups hl hf hr

def taskOrg : Schema := .ofObjects
  [.ofFields "Account" [{ name := "Name" }],
   .ofFields "Contact" [{ name := "LastName" }],
   .ofFields "Task" [{ name := "Subject" }, { name := "AccountId", references := ["Account"] },
     { name := "WhatId", references := ["Contact", "Account"] },
     { name := "WhoId", references := ["Contact"] },
     { name := "OwnerId", references := ["User"] }]]

def taskExport : List Declaration :=
  [{ object := "Account", fields := ["Name"] },
   { object := "Task", fields := ["WhoId", "WhatId", "OwnerId", "Subject", "AccountId"] }]

/-- contacts that are declared behind bring one lookup in, between the others, and draw another to
them; the lookup into accounts stays -/
theorem grows_of_generate_tasks :
    ∃ m n s t, (generate taskExport taskOrg declarationOrder []).outcome = .ok m ∧
      (generate (taskExport ++ [{ object := "Contact", fields := ["LastName"] }]) taskOrg
        declarationOrder []).outcome = .ok n ∧
      m.toList[1]? = some s ∧ n.toList[1]? = some t ∧
      s.lookups.toList = [("WhatId", { table := "Account" }),
        ("AccountId", { table := "Account" })] ∧
      t.lookups.toList = [("WhoId", { table := "Contact", after := true }),
        ("WhatId", { table := "Contact", after := true }), ("AccountId", { table := "Account" })] ∧
      s.Grows taskOrg t := by
  have hm : ((generate taskExport taskOrg declarationOrder []).outcome.toOption.map
      fun m => m.toList[1]?.map fun s => s.lookups.toList) =
        some (some [("WhatId", { table := "Account" }),
          ("AccountId", { table := "Account" })]) := by
    decide +kernel
  have hn : ((generate (taskExport ++ [{ object := "Contact", fields := ["LastName"] }]) taskOrg
      declarationOrder []).outcome.toOption.map fun n => n.toList[1]?.map fun s =>
        s.lookups.toList) =
        some (some [("WhoId", { table := "Contact", after := true }),
          ("WhatId", { table := "Contact", after := true }),
          ("AccountId", { table := "Account" })]) := by
    decide +kernel
  obtain ⟨m, hm, hls⟩ := toOption_map_eq_some.mp hm
  obtain ⟨n, hn, hlt⟩ := toOption_map_eq_some.mp hn
  obtain ⟨s, t, hs, ht, hg⟩ := grows_of_generate (i := 1) hm hn (by decide)
  rw [hs] at hls
  rw [ht] at hlt
  exact ⟨m, n, s, t, hm, hn, hs, ht, Option.some.inj hls, Option.some.inj hlt, hg⟩

end Mapping

end StagedLoad
