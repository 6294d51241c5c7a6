import StagedLoad.Proofs.Mapping.Steps

/-!
# Lookups and load order

In a generated mapping every lookup points at the object of exactly one step, and is converted
while records are inserted exactly when that step stands before its own (`lookup_of_generate`).
The objects that `attachLookups` carries along as loaded are those of the steps before
(`getElem?_stepsOf`), and no object has two steps, so being loaded is standing before.
-/

namespace StagedLoad.Mapping

/-! ## where an object is loaded -/

/-- the step at place `j` loads the object -/
def LoadsAt (m : Mapping) (object : String) (j : Nat) : Prop :=
  ∃ t, m.toList[j]? = some t ∧ t.object = object

theorem loadsAt_iff {m : Mapping} {object : String} {j : Nat} :
    m.LoadsAt object j ↔ (m.toList.map Step.object)[j]? = some object := by
  rw [List.getElem?_map, Option.map_eq_some_iff]
  rfl

theorem mem_take_iff {α : Type} {l : List α} (hl : l.Nodup) {a : α} {j : Nat}
    (hj : l[j]? = some a) (i : Nat) : a ∈ l.take i ↔ j < i := by
  obtain ⟨hlt, hj⟩ := List.getElem?_eq_some_iff.mp hj
  rw [List.mem_take_iff_getElem]
  refine ⟨fun ⟨k, hk, he⟩ => ?_, fun h => ?_⟩
  · have hkl : k < l.length := by omega
    have : k = j := hl.getElem_inj_iff.mp (he.trans hj.symm)
    omega
  · exact ⟨j, by omega, hj⟩

theorem exists_loadsAt {m : Mapping} (hn : (m.toList.map Step.object).Nodup) {object : String}
    (h : object ∈ m.toList.map Step.object) : ∃ j, ∀ k, m.LoadsAt object k ↔ k = j := by
  obtain ⟨j, hlt, hj⟩ := List.mem_iff_getElem.mp h
  refine ⟨j, fun k => ?_⟩
  rw [loadsAt_iff, List.getElem?_eq_some_iff]
  refine ⟨fun ⟨hk, he⟩ => hn.getElem_inj_iff.mp (he.trans hj.symm), fun h => ?_⟩
  subst h
  exact ⟨hlt, hj⟩

/-! ## the lookups of a step -/

theorem eq_of_object_eq {cs : List Classified} (hn : (cs.map Classified.object).Nodup)
    {c d : Classified} (hc : c ∈ cs) (hd : d ∈ cs) (h : c.object = d.object) : c = d :=
  List.inj_on_of_nodup_map hn hc hd h

theorem mem_lookups_stepsOf {cs : List Classified} (hn : (cs.map Classified.object).Nodup)
    {i : Nat} {c : Classified} (hc : cs[i]? = some c) {s : Step} (hs : (stepsOf cs)[i]? = some s)
    {field : String} {l : Lookup} (hl : (field, l) ∈ s.lookups.toList) :
    ∃ ts, (field, l.table :: ts) ∈ c.lookups.toList ∧ l.keyField = none ∧
      (l.after = false ↔ l.table ∈ (cs.map Classified.object).take i) := by
  rw [getElem?_stepsOf, hc, Option.map_some, Option.some.injEq] at hs
  subst hs
  rcases Step.mem_lookups_attach hl with hl | ⟨e, he, hr⟩
  · cases hl
  · obtain ⟨d, hd, ho, hf⟩ := Edge.mem_startingAt_discover he
    have hdc : d = c := eq_of_object_eq hn hd (List.mem_of_getElem? hc) ho
    subst hdc
    obtain ⟨rfl, t, ts, ht, rfl⟩ := Edge.resolved_eq_some.mp hr
    refine ⟨ts, ?_, rfl, ?_⟩
    · rw [ht] at hf
      exact hf
    · rw [Bool.not_eq_false', List.contains_iff_mem, List.mem_reverse, List.map_take]

theorem mem_fields_ofClassified {c : Classified} {name : String} :
    name ∈ (Step.ofClassified c).fields.keys ↔ name ∈ c.fields ∨ name ∈ c.lookups.keys := by
  show name ∈ (Roster.ofList _ : Keyed String).keys ↔ _
  rw [Roster.mem_keys_ofList, List.map_map, ← List.mem_append]
  simp [Function.comp_def]

/-! ## the law -/

variable {ds : List Declaration} {org : OrgView} {rules : List Rule} {m : Mapping}

/-- **A lookup of a generated mapping names a field of its step and points at the object of
exactly one step, and it is converted at insert time exactly when that step comes earlier.** -/
theorem lookup_of_generate (h : (generate ds org declarationOrder rules).outcome = .ok m)
    {i : Nat} {s : Step} (hs : m.toList[i]? = some s) {field : String} {l : Lookup}
    (hl : (field, l) ∈ s.lookups.toList) :
    field ∈ s.fields.keys ∧
      ∃ j, (∀ k, m.LoadsAt l.table k ↔ k = j) ∧ (l.after = false ↔ j < i) := by
  obtain ⟨cs, hcs, hn, ht⟩ := toList_of_generate h
  have ho : m.toList.map Step.object = cs.map Classified.object := by rw [ht, objects_stepsOf]
  rw [ht] at hs
  obtain ⟨c, hc, he⟩ := getElem?_stepsOf_eq_some.mp hs
  obtain ⟨ts, hm, _, ha⟩ := mem_lookups_stepsOf hn hc hs hl
  refine ⟨?_, ?_⟩
  · rw [← he, Step.fields_attach, mem_fields_ofClassified]
    exact Or.inr (List.mem_map_of_mem (f := Prod.fst) hm)
  · have htarget : l.table ∈ cs.map Classified.object :=
      (Declaration.targets_of_classifyAll hcs (List.mem_of_getElem? hc) hm).2 _
        (List.mem_cons_self ..)
    obtain ⟨j, hj⟩ := exists_loadsAt (m := m) (by rw [ho]; exact hn) (by rw [ho]; exact htarget)
    refine ⟨j, hj, ?_⟩
    have hat : (cs.map Classified.object)[j]? = some l.table := by
      rw [← ho]
      exact loadsAt_iff.mp ((hj j).mpr rfl)
    rw [ha, mem_take_iff hn hat]

/-- accounts that refer to themselves, to users and to contacts, and contacts that refer to
accounts -/
def smallOrg : Schema := .ofObjects
  [.ofFields "Account" [{ name := "Name" }, { name := "ParentId", references := ["Account"] },
     { name := "OwnerId", references := ["User"] },
     { name := "MainContact__c", references := ["Contact"] }],
   .ofFields "Contact" [{ name := "LastName" },
     { name := "AccountId", references := ["Account"] }]]

def smallExport : List Declaration :=
  [{ object := "Account", fields := ["Name", "ParentId", "OwnerId", "MainContact__c"] },
   { object := "Contact", fields := ["LastName", "AccountId", "RecordTypeId"] }]

theorem lookup_of_generate_small :
    ∃ m s, (generate smallExport smallOrg declarationOrder []).outcome = .ok m ∧
      m.toList[1]? = some s ∧ ("AccountId", { table := "Account" }) ∈ s.lookups.toList ∧
      "AccountId" ∈ s.fields.keys ∧ ∃ j, (∀ k, m.LoadsAt "Account" k ↔ k = j) ∧ j < 1 := by
  have hs : ((generate smallExport smallOrg declarationOrder []).outcome.toOption.bind
      fun m => m.toList[1]?) = some {
        object := "Contact"
        fields := Roster.ofList (["LastName", "RecordTypeId", "AccountId"].map fun n => (n, n))
        lookups := Roster.ofList [("AccountId", { table := "Account" })] } := by decide +kernel
  cases hm : (generate smallExport smallOrg declarationOrder []).outcome with
  | error p => rw [hm] at hs; cases hs
  | ok m =>
    rw [hm] at hs
    have hl : ("AccountId", { table := "Account" }) ∈
        (Roster.ofList [("AccountId", { table := "Account" })] : Keyed Lookup).toList := by decide
    obtain ⟨hf, j, hj, ha⟩ := lookup_of_generate hm hs hl
    exact ⟨m, _, rfl, hs, hl, hf, j, hj, ha.mp rfl⟩

end StagedLoad.Mapping
