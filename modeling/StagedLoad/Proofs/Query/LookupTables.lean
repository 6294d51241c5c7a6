import StagedLoad.Proofs.Query.FreshNames
import StagedLoad.Proofs.Query.Layout
import StagedLoad.Proofs.Staging.Supply

/-!
# The tables that lookups are read through

A catalog that is derived from steps calls the table of ids of a step after its staging table.
The conversion of a lookup asks for the table of ids by the name of the object that the lookup
refers to (`tables_of_lookupJoins`).  Both names are the same as long as no step that is referred
to has a staging table of another name.  Otherwise the lookup is read through the table of another
step, or not at all (`readsIds_forLoad_iff`).
-/

namespace StagedLoad

/-! ## lookups without a table of ids -/

theorem idTableName_inj {a b : String} : idTableName a = idTableName b ↔ a = b :=
  String.append_left_inj "_sf_ids"

def Lookup.miss (l : Lookup) : Problem := .notInCatalog { table := idTableName l.table }

theorem Lookup.table_eq_of_miss_eq {l l' : Lookup} (h : l.miss = l'.miss) : l.table = l'.table := by
  have hn : idTableName l.table = idTableName l'.table :=
    congrArg CatalogMiss.table (Problem.notInCatalog.inj h)
  exact idTableName_inj.mp hn

theorem Lookup.resolve_eq_error {l : Lookup} {name : String} {catalog : Catalog} {model : Table}
    (hc : model.hasColumn (l.keyField.getD name) = true) {p : Problem}
    (h : l.resolve name catalog model = .error p) :
    p = l.miss ∧ ∀ t, catalog.table (idTableName l.table) ≠ .ok t := by
  rw [Lookup.resolve, keyFieldIn_of_hasColumn hc] at h
  cases ht : catalog.table (idTableName l.table) with
  | ok t =>
    rw [ht] at h
    cases h
  | error miss =>
    rw [ht] at h
    cases h
    obtain ⟨_, rfl⟩ := Catalog.table_eq_error_iff.mp ht
    refine ⟨rfl, fun t hn => ?_⟩
    cases hn

namespace Extender
variable {s : Step} {catalog : Catalog} {model : Table} {names free : Aliases} {e : Extender}

/-! ## the joins of a step -/

theorem tables_converted {model : String} {sites : List (Table × String)} {names : List String}
    (h : names.length = sites.length) :
    ((converted model sites names).map Prod.snd).map (·.table.table) =
      sites.map fun site => site.1.name := by
  have hz : (sites.zip names).map Prod.fst = sites := List.map_fst_zip (Nat.le_of_eq h.symm)
  conv_rhs => rw [← hz]
  rw [converted, List.map_map, List.map_map, List.map_map]
  rfl

theorem tables_of_lookupJoins (h : (lookupJoins s catalog model names).outcome = .ok (e, free)) :
    List.Forall₂ (fun l j => j.table.table = idTableName l.2.table) s.insertLookups
      (e.joins.getD []) := by
  rw [outcome_lookupJoins, map_eq_ok] at h
  obtain ⟨sites, hs, he⟩ := h
  obtain ⟨rfl, _⟩ := Prod.mk.inj he
  show List.Forall₂ _ _ ((part _).getD [])
  rw [getD_part]
  have hn : List.Forall₂ (fun l name => name = idTableName l.2.table) s.insertLookups
      (sites.map fun site => site.1.name) := by
    rw [List.forall₂_map_right_iff]
    refine (mapM_eq_ok.mp hs).imp fun l site hr => ?_
    exact Catalog.name_of_table (Lookup.resolve_eq_ok.mp hr).1
  rw [← tables_converted (Aliases.length_take _ _), List.forall₂_map_right_iff] at hn
  exact hn

theorem outcome_eq_error (hm : model.Covers (Catalog.stagingTable s)) {p : Problem}
    (h : (lookupJoins s catalog model names).outcome = .error p) :
    ∃ l ∈ s.insertLookups, p = l.2.miss ∧
      ∀ t, catalog.table (idTableName l.2.table) ≠ .ok t := by
  rw [outcome_lookupJoins] at h
  have hs : sitesOf catalog model s.insertLookups = .error p := by
    cases hs : sitesOf catalog model s.insertLookups with
    | ok sites =>
      rw [hs] at h
      cases h
    | error q =>
      rw [hs] at h
      cases h
      rfl
  obtain ⟨l, hl, hr⟩ := exists_of_mapM_eq_error hs
  have hc : (Catalog.stagingTable s).hasColumn (l.2.keyField.getD l.1) = true := by
    rw [Catalog.hasColumn_stagingTable]
    have hk := (Step.mem_insertLookups.mp hl).1
    exact Or.inr (Or.inr (Or.inl (List.mem_map_of_mem (f := fun e => e.2.keyField.getD e.1) hk)))
  exact ⟨l, hl, Lookup.resolve_eq_error (hm _ hc) hr⟩

/-- a lookup is not refused for want of its table of ids, and the join that is made for it, the
one at its place, is with the given table -/
structure ReadsIds (x : Except Problem (Extender × Aliases)) (place : Nat) (l : Lookup)
    (idTable : String) : Prop where
  found : x ≠ .error l.miss
  joined : ∀ e free, x = .ok (e, free) →
    ∃ j, (e.joins.getD [])[place]? = some j ∧ j.table.table = idTable

theorem readsIds_of_ok {place : Nat} {l : String × Lookup} {idTable : String}
    (hl : s.insertLookups[place]? = some l)
    (h : (lookupJoins s catalog model names).outcome = .ok (e, free)) :
    ReadsIds (lookupJoins s catalog model names).outcome place l.2 idTable ↔
      idTableName l.2.table = idTable := by
  obtain ⟨j, hj, ht⟩ := exists_getElem?_right (tables_of_lookupJoins h) hl
  refine ⟨fun hr => ?_, fun hi => ⟨?_, fun e' free' h' => ?_⟩⟩
  · obtain ⟨j', hj', hi⟩ := hr.joined e free h
    rw [hj] at hj'
    obtain rfl := Option.some.inj hj'
    rw [← ht, hi]
  · rw [h]
    exact fun hn => nomatch hn
  · rw [h] at h'
    cases h'
    exact ⟨j, hj, ht.trans hi⟩

/-! ## derived catalogs -/

section
variable {steps : List Step}

/-- none of the objects that the lookups of a step refer to is staged under another name -/
def NoneRenamed (s : Step) (steps : List Step) : Prop :=
  ∀ l ∈ s.insertLookups, ∀ d ∈ steps, d.object = l.2.table → d.tableName = d.object

theorem NoneRenamed.exists_ids (h : NoneRenamed s steps) {l : String × Lookup}
    (hl : l ∈ s.insertLookups) {d : Step} (hd : d ∈ steps) (ho : d.object = l.2.table) :
    ∃ t, (Catalog.forLoad steps).table (idTableName l.2.table) = .ok t := by
  have hm : .idMapping d.tableName ∈ steps.flatMap Catalog.tablesOf :=
    List.mem_flatMap.mpr ⟨d, hd, List.mem_cons_of_mem _ (List.mem_cons_self ..)⟩
  rw [← ho, ← h l hl d hd ho]
  exact Catalog.exists_table_forLoad hm

theorem NoneRenamed.ne_miss (h : NoneRenamed s steps) (hm : model.Covers (Catalog.stagingTable s))
    {l : String × Lookup} (hl : l ∈ s.insertLookups) {d : Step} (hd : d ∈ steps)
    (ho : d.object = l.2.table) :
    (lookupJoins s (Catalog.forLoad steps) model names).outcome ≠ .error l.2.miss := by
  intro hx
  obtain ⟨l', _, he, hn⟩ := outcome_eq_error hm hx
  obtain ⟨t, hi⟩ := h.exists_ids hl hd ho
  rw [Lookup.table_eq_of_miss_eq he] at hi
  exact hn t hi

theorem NoneRenamed.exists_lookupJoins (h : NoneRenamed s steps)
    (hm : model.Covers (Catalog.stagingTable s))
    (ht : ∀ l ∈ s.insertLookups, l.2.table ∈ steps.map Step.object) :
    ∃ e free, (lookupJoins s (Catalog.forLoad steps) model names).outcome = .ok (e, free) := by
  cases hx : (lookupJoins s (Catalog.forLoad steps) model names).outcome with
  | ok x => exact ⟨x.1, x.2, rfl⟩
  | error p =>
    obtain ⟨l, hl, rfl, _⟩ := outcome_eq_error hm hx
    obtain ⟨d, hd, ho⟩ := List.mem_map.mp (ht l hl)
    exact absurd hx (h.ne_miss hm hl hd ho)

theorem NoneRenamed.readsIds (h : NoneRenamed s steps)
    (hm : model.Covers (Catalog.stagingTable s)) {place : Nat} {l : String × Lookup}
    (hl : s.insertLookups[place]? = some l) {d : Step} (hd : d ∈ steps)
    (ho : d.object = l.2.table) :
    ReadsIds (lookupJoins s (Catalog.forLoad steps) model names).outcome place l.2
      (idTableName d.tableName) := by
  have hlm : l ∈ s.insertLookups := List.mem_of_getElem? hl
  cases hx : (lookupJoins s (Catalog.forLoad steps) model names).outcome with
  | ok x => rw [← hx, readsIds_of_ok hl hx, h l hlm d hd ho, ho]
  | error p =>
    rw [← hx]
    refine ⟨h.ne_miss hm hlm hd ho, fun e free he => ?_⟩
    rw [hx] at he
    cases he

theorem forall₂_ids_iff (h : (lookupJoins s catalog model names).outcome = .ok (e, free)) :
    List.Forall₂ (fun l j => ∀ d ∈ steps, d.object = l.2.table →
      j.table.table = idTableName d.tableName) s.insertLookups (e.joins.getD []) ↔
        NoneRenamed s steps := by
  have ht := tables_of_lookupJoins h
  refine ⟨fun hj => ?_, fun hn => ?_⟩
  · refine ((List.forall₂_and_left _ _).mp (hj.mp (fun l j hl hn => ⟨?_, hn⟩) ht)).1
    intro d hd ho
    have hi : idTableName l.2.table = idTableName d.tableName := hn.symm.trans (hl d hd ho)
    rw [ho]
    exact (idTableName_inj.mp hi).symm
  · refine ((List.forall₂_and_left _ _).mpr ⟨hn, ht⟩).imp fun l j ⟨hl, hi⟩ d hd ho => ?_
    rw [hi, hl d hd ho, ho]

/-- every lookup of a step into an object of the steps is read through the table of ids of that
object exactly when none of these objects is staged under another name, or when a lookup into an
object without a step stops the conversion; without such a lookup all of them are converted
then -/
theorem readsIds_forLoad_iff (hm : model.Covers (Catalog.stagingTable s)) :
    ((∀ place l d, s.insertLookups[place]? = some l → d ∈ steps → d.object = l.2.table →
        ReadsIds (lookupJoins s (Catalog.forLoad steps) model names).outcome place l.2
          (idTableName d.tableName)) ↔
      NoneRenamed s steps ∨
      ∃ l ∈ s.insertLookups, l.2.table ∉ steps.map Step.object ∧
        (lookupJoins s (Catalog.forLoad steps) model names).outcome = .error l.2.miss) ∧
    ((∀ l ∈ s.insertLookups, l.2.table ∈ steps.map Step.object) →
      ((∃ e free, (lookupJoins s (Catalog.forLoad steps) model names).outcome = .ok (e, free) ∧
          List.Forall₂ (fun l j => ∀ d ∈ steps, d.object = l.2.table →
            j.table.table = idTableName d.tableName) s.insertLookups (e.joins.getD [])) ↔
        NoneRenamed s steps)) := by
  refine ⟨⟨fun h => ?_, fun h place l d hl hd ho => ?_⟩, fun ht => ⟨?_, fun h => ?_⟩⟩
  · cases hx : (lookupJoins s (Catalog.forLoad steps) model names).outcome with
    | ok x =>
      refine Or.inl fun l hl d hd ho => ?_
      obtain ⟨place, hp⟩ := List.getElem?_of_mem hl
      have hi := (readsIds_of_ok hp hx).mp (h place l d hp hd ho)
      rw [ho]
      exact (idTableName_inj.mp hi).symm
    | error p =>
      -- the lookup that stops the conversion would not be read if its object had a step
      obtain ⟨l, hl, rfl, _⟩ := outcome_eq_error hm hx
      refine Or.inr ⟨l, hl, fun ht => ?_, rfl⟩
      obtain ⟨d, hd, ho⟩ := List.mem_map.mp ht
      obtain ⟨place, hp⟩ := List.getElem?_of_mem hl
      exact (h place l d hp hd ho).found hx
  · rcases h with h | ⟨l', _, hn, hx⟩
    · exact h.readsIds hm hl hd ho
    · -- what stops the conversion is a lookup into another object
      rw [hx]
      refine ⟨fun he => hn ?_, fun e free he => nomatch he⟩
      rw [Lookup.table_eq_of_miss_eq (Except.error.inj he), ← ho]
      exact List.mem_map_of_mem hd
  · rintro ⟨e, free, hx, hj⟩
    exact (forall₂_ids_iff hx).mp hj
  · obtain ⟨e, free, hx⟩ :
        ∃ e free, (lookupJoins s (Catalog.forLoad steps) model names).outcome = .ok (e, free) :=
      h.exists_lookupJoins hm ht
    exact ⟨e, free, hx, (forall₂_ids_iff hx).mpr h⟩

/-- accounts, and contacts that refer to them, each staged under the given name -/
def accounts (table : Option String) : Step where
  object := "Account"
  table := table
  fields := Roster.ofList [("Name", "Name")]

@[inherit_doc accounts]
def contacts (table : Option String) : Step where
  object := "Contact"
  table := table
  fields := Roster.ofList [("LastName", "LastName"), ("AccountId", "AccountId")]
  lookups := Roster.ofList [("AccountId", { table := "Account" })]

/-- contacts may be staged under any name -/
theorem readsIds_renamed_contacts :
    (Catalog.stagingTable (contacts (some "people"))).Covers
      (Catalog.stagingTable (contacts (some "people"))) ∧
    ∃ e free, (lookupJoins (contacts (some "people"))
        (Catalog.forLoad [accounts none, contacts (some "people")])
        (Catalog.stagingTable (contacts (some "people"))) {}).outcome = .ok (e, free) ∧
      List.Forall₂ (fun l j => ∀ d ∈ [accounts none, contacts (some "people")],
          d.object = l.2.table → j.table.table = idTableName d.tableName)
        (contacts (some "people")).insertLookups (e.joins.getD []) := by
  have hn : NoneRenamed (contacts (some "people")) [accounts none, contacts (some "people")] := by
    unfold NoneRenamed
    decide
  exact ⟨fun _ h => h, ((readsIds_forLoad_iff fun _ h => h).2 (by decide)).mpr hn⟩

def renamedAccounts : List Step := [accounts (some "accounts"), contacts none]

/-- accounts may not, although all tables have names of their own -/
theorem not_readsIds_renamed_accounts :
    (renamedAccounts.map Step.object).Nodup ∧
    ((renamedAccounts.flatMap Catalog.tablesOf).map Table.name).Nodup ∧
    ∃ s ∈ renamedAccounts, ∃ model,
      (Catalog.forLoad renamedAccounts).table s.tableName = .ok model ∧
      ∃ place l, s.insertLookups[place]? = some l ∧
        ∃ d ∈ renamedAccounts, d.object = l.2.table ∧
          ¬ ReadsIds (lookupJoins s (Catalog.forLoad renamedAccounts) model {}).outcome place l.2
            (idTableName d.tableName) := by
  refine ⟨by decide, by decide, contacts none, by decide, Catalog.stagingTable (contacts none),
    by decide, 0, ("AccountId", { table := "Account" }), by decide, accounts (some "accounts"),
    by decide, rfl, fun h => h.found ?_⟩
  rfl

end

end Extender

end StagedLoad
