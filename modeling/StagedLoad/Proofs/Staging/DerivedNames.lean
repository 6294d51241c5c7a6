import StagedLoad.Proofs.Query.FreshNames
import StagedLoad.Staging.Table
import StagedLoad.Step.Basic

/-!
# Derived names

The names of the tables of ids and of record types are made by endings none of which ends in
another, so two derived names are the same only when the same ending is put behind the same name
(`derived_inj`).  No derived name is the numbered name of a joined table (`nameOf_ne_derived`).
-/

namespace StagedLoad

def derivedEndings : List String := ["_sf_ids", "_rt_mapping", "_rt_target_mapping"]

theorem Step.sourceRecordTypes_eq (s : Step) : s.sourceRecordTypes = s.object ++ "_rt_mapping" :=
  rfl

theorem Step.destinationRecordTypes_eq (s : Step) :
    s.destinationRecordTypes = s.object ++ "_rt_target_mapping" := rfl

theorem append_ne_append {p q : String} (hpq : ¬ p.toList <:+ q.toList)
    (hqp : ¬ q.toList <:+ p.toList) (a b : String) : a ++ p ≠ b ++ q := by
  intro h
  have hl : a.toList ++ p.toList = b.toList ++ q.toList := by
    rw [← String.toList_append, ← String.toList_append, h]
  have hp : p.toList <:+ b.toList ++ q.toList := ⟨a.toList, hl⟩
  rcases List.suffix_or_suffix_of_suffix hp (List.suffix_append _ _) with h | h
  · exact hpq h
  · exact hqp h

theorem not_suffix_of_ne : ∀ p ∈ derivedEndings, ∀ q ∈ derivedEndings, p ≠ q →
    ¬ p.toList <:+ q.toList := by decide

theorem derived_inj {p q : String} (hp : p ∈ derivedEndings) (hq : q ∈ derivedEndings)
    {a b : String} (h : a ++ p = b ++ q) : p = q ∧ a = b := by
  by_cases hpq : p = q
  · subst hpq
    exact ⟨rfl, (String.append_left_inj p).mp h⟩
  · exact absurd h (append_ne_append (not_suffix_of_ne p hp q hq hpq)
      (not_suffix_of_ne q hq p hp fun e => hpq e.symm) a b)

theorem last_of_ending :
    ∀ p ∈ derivedEndings, ∃ c, p.toList.getLast? = some c ∧ c.isDigit = false := by
  intro p hp
  rcases List.mem_cons.mp hp with rfl | hp
  · exact ⟨'s', by decide, by decide⟩
  · rcases List.mem_cons.mp hp with rfl | hp
    · exact ⟨'g', by decide, by decide⟩
    · rw [List.mem_singleton] at hp
      subst hp
      exact ⟨'g', by decide, by decide⟩

theorem nameOf_ne_derived {p : String} (hp : p ∈ derivedEndings) (n : Nat) (a : String) :
    Aliases.nameOf n ≠ a ++ p := by
  intro h
  obtain ⟨c, hc, hd⟩ := Aliases.isDigit_of_nameOf n
  obtain ⟨e, he, hne⟩ := last_of_ending p hp
  rw [h, String.toList_append, List.getLast?_append, he] at hc
  cases hc
  rw [hne] at hd
  cases hd

end StagedLoad
