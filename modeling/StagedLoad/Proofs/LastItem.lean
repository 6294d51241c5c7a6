import Mathlib.Data.List.Induction
import StagedLoad.Roster

/-!
# The last item and the first place of a key

Of the items with one key a roster holds the last one of its list.  Here that is said by the place
of the item: no item behind it has its key (`LastOf`).  Every key of a list has exactly one last
item (`exists_lastOf`, `LastOf.eq_of_key_eq`), and these are the items of the roster
(`Roster.mem_ofList_iff_lastOf`).

The keys of a roster stand in the order in which its list first meets them
(`Roster.keys_ofList`).  A list without its later repetitions is told by three properties
(`FirstOccurrences`).

So what a list of items does to a roster depends on their last items and first places only: the
roster of the list does the same (`Roster.putAll_ofList`), and doing it twice is doing it once
(`Roster.putAll_putAll`).
-/

namespace StagedLoad

variable {α κ : Type} {key : α → κ} {as : List α} {a b : α}

/-- no item behind this one has its key -/
def LastOf (key : α → κ) (as : List α) (a : α) : Prop :=
  ∃ before behind, as = before ++ a :: behind ∧ ∀ b ∈ behind, key b ≠ key a

theorem LastOf.mem (h : LastOf key as a) : a ∈ as := by
  obtain ⟨before, behind, rfl, _⟩ := h
  exact List.mem_append_right _ (List.mem_cons_self ..)

theorem LastOf.filterMap {β : Type} {key' : β → κ} {f : α → Option β}
    (hf : ∀ a b, f a = some b → key' b = key a) (h : LastOf key as a) {b : β} (hb : f a = some b) :
    LastOf key' (as.filterMap f) b := by
  obtain ⟨before, behind, rfl, hn⟩ := h
  refine ⟨before.filterMap f, behind.filterMap f, ?_, fun c hc he => ?_⟩
  · rw [List.filterMap_append, List.filterMap_cons_some hb]
  · obtain ⟨d, hd, hdc⟩ := List.mem_filterMap.mp hc
    rw [hf a b hb, hf d c hdc] at he
    exact hn d hd he

variable [DecidableEq κ]

theorem find?_reverse_eq_some_iff {k : κ} :
    (as.reverse.find? fun b => key b = k) = some a ↔ key a = k ∧ LastOf key as a := by
  rw [List.find?_eq_some_iff_append, decide_eq_true_iff]
  refine and_congr_right fun hk => ⟨fun ⟨xs, ys, he, hx⟩ => ?_, fun ⟨before, behind, he, hb⟩ => ?_⟩
  · refine ⟨ys.reverse, xs.reverse, ?_, fun b hb => ?_⟩
    · rw [List.reverse_eq_append_iff] at he
      simpa using he
    · rw [hk]
      simpa using hx b (List.mem_reverse.mp hb)
  · refine ⟨behind.reverse, before.reverse, by simp [he], fun b hm => ?_⟩
    have := hb b (List.mem_reverse.mp hm)
    rw [hk] at this
    simpa using this

theorem lastOf_append {bs : List α} :
    LastOf key (as ++ bs) a ↔
      LastOf key bs a ∨ LastOf key as a ∧ ∀ b ∈ bs, key b ≠ key a := by
  have hb : (bs.reverse.find? fun b => key b = key a) = none ↔ ∀ b ∈ bs, key b ≠ key a := by
    simp
  have h : ∀ {l : List α}, (l.reverse.find? fun b => key b = key a) = some a ↔ LastOf key l a :=
    find?_reverse_eq_some_iff.trans (and_iff_right rfl)
  rw [← h, List.reverse_append, List.find?_append, Option.or_eq_some_iff, h, h, hb,
    and_comm (a := ∀ b ∈ bs, key b ≠ key a)]

theorem lastOf_cons :
    LastOf key (b :: as) a ↔ LastOf key as a ∨ a = b ∧ ∀ c ∈ as, key c ≠ key a := by
  have hs : LastOf key [b] a ↔ a = b := by
    refine ⟨fun h => List.mem_singleton.mp h.mem, fun h => ?_⟩
    exact ⟨[], [], by rw [h]; rfl, fun _ hc => nomatch hc⟩
  rw [← List.singleton_append, lastOf_append, hs]

theorem lastOf_flatMap {β : Type} {f : β → List α} {bs : List β} :
    LastOf key (bs.flatMap f) a ↔
      ∃ before b behind, bs = before ++ b :: behind ∧ LastOf key (f b) a ∧
        ∀ c ∈ behind, ∀ x ∈ f c, key x ≠ key a := by
  induction bs with
  | nil =>
    refine ⟨fun h => ?_, fun ⟨before, b, behind, h, _⟩ => ?_⟩
    · cases h.mem
    · cases before <;> cases h
  | cons c bs ih =>
    rw [List.flatMap_cons, lastOf_append, ih]
    refine ⟨fun h => ?_, fun ⟨before, b, behind, he, hb, hn⟩ => ?_⟩
    · rcases h with ⟨before, b, behind, rfl, hb, hn⟩ | ⟨hc, hn⟩
      · exact ⟨c :: before, b, behind, rfl, hb, hn⟩
      · exact ⟨[], c, bs, rfl, hc, fun d hd x hx => hn x (List.mem_flatMap.mpr ⟨d, hd, hx⟩)⟩
    · cases before with
      | nil =>
        cases he
        refine Or.inr ⟨hb, fun x hx => ?_⟩
        obtain ⟨d, hd, hx⟩ := List.mem_flatMap.mp hx
        exact hn d hd x hx
      | cons d before =>
        cases he
        exact Or.inl ⟨before, b, behind, rfl, hb, hn⟩

theorem LastOf.eq_of_key_eq (ha : LastOf key as a) (hb : LastOf key as b) (h : key a = key b) :
    a = b := by
  have hfa := find?_reverse_eq_some_iff.mpr ⟨h, ha⟩
  have hfb := find?_reverse_eq_some_iff.mpr ⟨rfl, hb⟩
  exact Option.some.inj (hfa.symm.trans hfb)

theorem exists_lastOf (h : a ∈ as) : ∃ b, LastOf key as b ∧ key b = key a := by
  have hs : (as.reverse.find? fun b => key b = key a).isSome := by
    rw [List.find?_isSome]
    exact ⟨a, List.mem_reverse.mpr h, by simp⟩
  obtain ⟨b, hb⟩ := Option.isSome_iff_exists.mp hs
  obtain ⟨hk, hl⟩ := find?_reverse_eq_some_iff.mp hb
  exact ⟨b, hl, hk⟩

theorem Roster.mem_ofList_iff_lastOf : a ∈ (ofList as : Roster key).toList ↔ LastOf key as a := by
  rw [Roster.mem_ofList_iff, find?_reverse_eq_some_iff]
  exact and_iff_right rfl

theorem Roster.find?_putAll_of_lastOf (r : Roster key) (h : LastOf key as a) :
    (r.putAll as).find? (key a) = some a := by
  rw [find?_putAll, find?_reverse_eq_some_iff.mpr ⟨rfl, h⟩]
  rfl

theorem Roster.find?_putAll_of_not_mem (r : Roster key) {k : κ} (h : k ∉ as.map key) :
    (r.putAll as).find? k = r.find? k := by
  have hn : (as.reverse.find? fun b => key b = k) = none := by
    simpa using h
  rw [find?_putAll, hn]
  rfl

/-! ## the first place of a key -/

namespace Roster

theorem keys_putAll (r : Roster key) (as : List α) :
    (r.putAll as).keys = r.keys ++ ((as.map key).filter (· ∉ r.keys)).eraseDups := by
  induction as generalizing r with
  | nil =>
    show r.keys = r.keys ++ []
    rw [List.append_nil]
  | cons a as ih =>
    rw [putAll_cons, ih, keys_put, List.map_cons]
    by_cases ha : key a ∈ r.keys
    · rw [if_pos ha, List.filter_cons_of_neg (by simpa using ha)]
    · rw [if_neg ha, List.filter_cons_of_pos (by simpa using ha), List.eraseDups_cons,
        List.filter_filter, List.append_assoc]
      have hp : ∀ k, decide (k ∉ r.keys ++ [key a]) = (!k == key a && decide (k ∉ r.keys)) := by
        intro k
        by_cases hk : k = key a <;> simp [hk]
      simp only [hp]
      rfl

theorem keys_ofList (as : List α) : (ofList as : Roster key).keys = (as.map key).eraseDups := by
  have hf : (as.map key).filter (· ∉ (∅ : Roster key).keys) = as.map key :=
    List.filter_eq_self.mpr fun _ _ => decide_eq_true (fun h => nomatch h)
  rw [ofList, keys_putAll, hf]
  rfl

end Roster

section
variable [DecidableEq α]

theorem OrderedSet.toList_ofList (as : List α) :
    (Roster.ofList as : OrderedSet α).toList = as.eraseDups := by
  have h : (Roster.ofList as : OrderedSet α).keys = as.eraseDups := by
    rw [Roster.keys_ofList, List.map_id]
  rw [← h, Roster.keys, List.map_id]

theorem nodup_eraseDups (as : List α) : as.eraseDups.Nodup := by
  rw [← OrderedSet.toList_ofList, ← OrderedSet.keys_eq]
  exact Roster.nodup_keys _

theorem eraseDups_of_nodup {as : List α} (h : as.Nodup) : as.eraseDups = as := by
  rw [← OrderedSet.toList_ofList]
  exact Roster.toList_ofList (by simpa using h)

theorem eraseDups_concat (as : List α) (c : α) :
    (as ++ [c]).eraseDups = if c ∈ as then as.eraseDups else as.eraseDups ++ [c] := by
  rw [List.eraseDups_append]
  by_cases hc : c ∈ as
  · have hr : [c].removeAll as = [] := by simp [List.removeAll, hc]
    rw [hr, List.eraseDups_nil, List.append_nil, if_pos hc]
  · have hr : [c].removeAll as = [c] := by simp [List.removeAll, hc]
    rw [hr, eraseDups_of_nodup (List.pairwise_singleton ..), if_neg hc]

theorem eraseDups_filter (p : α → Bool) (as : List α) :
    (as.filter p).eraseDups = as.eraseDups.filter p := by
  match as with
  | [] => rfl
  | a :: as =>
    have ih := eraseDups_filter p (as.filter fun b => !b == a)
    rw [List.eraseDups_cons]
    by_cases ha : p a = true
    · have hc : (as.filter p).filter (fun b => !b == a) =
          (as.filter fun b => !b == a).filter p := by
        rw [List.filter_filter, List.filter_filter]
        simp only [Bool.and_comm]
      rw [List.filter_cons_of_pos ha, List.eraseDups_cons, List.filter_cons_of_pos ha, hc, ih]
    · have hc : (as.filter fun b => !b == a).filter p = as.filter p := by
        rw [List.filter_filter]
        refine List.filter_congr fun b _ => ?_
        by_cases hb : b = a
        · simp [hb, ha]
        · simp [hb]
      rw [List.filter_cons_of_neg ha, List.filter_cons_of_neg ha, ← ih, hc]
termination_by as.length
decreasing_by exact Nat.lt_succ_of_le (List.length_filter_le _ _)

/-- the second list holds the items of the first, each once, in the order in which they first
occur -/
structure FirstOccurrences (as firsts : List α) : Prop where
  nodup : firsts.Nodup
  mem_iff : ∀ a, a ∈ firsts ↔ a ∈ as
  ordered : firsts.Pairwise fun a b => as.idxOf a < as.idxOf b

theorem ordered_eraseDups (as : List α) :
    as.eraseDups.Pairwise fun a b => as.idxOf a < as.idxOf b := by
  -- along the list from behind: a new item stands behind all others
  induction as using List.reverseRecOn with
  | nil => exact .nil
  | append_singleton as c ih =>
    have hold : ∀ a ∈ as.eraseDups, (as ++ [c]).idxOf a = as.idxOf a := fun a ha => by
      rw [List.idxOf_append, if_pos (List.mem_eraseDups.mp ha)]
    have hkept : as.eraseDups.Pairwise fun a b => (as ++ [c]).idxOf a < (as ++ [c]).idxOf b :=
      ih.imp_of_mem fun ha hb h => by
        rw [hold _ ha, hold _ hb]
        exact h
    rw [eraseDups_concat]
    split
    · exact hkept
    · next hc =>
      rw [List.pairwise_append]
      refine ⟨hkept, List.pairwise_singleton .., fun a ha b hb => ?_⟩
      rw [List.mem_singleton] at hb
      have hlt : as.idxOf a < as.length := List.idxOf_lt_length_iff.mpr (List.mem_eraseDups.mp ha)
      rw [hold a ha, List.idxOf_append, hb, if_neg hc]
      omega

theorem firstOccurrences_iff {as firsts : List α} :
    FirstOccurrences as firsts ↔ firsts = as.eraseDups := by
  constructor
  · intro h
    have hp : firsts.Perm as.eraseDups := by
      rw [List.perm_ext_iff_of_nodup h.nodup (nodup_eraseDups as)]
      intro a
      rw [h.mem_iff, List.mem_eraseDups]
    refine hp.eq_of_pairwise (fun a b _ _ hab hba => ?_) h.ordered (ordered_eraseDups as)
    omega
  · rintro rfl
    exact ⟨nodup_eraseDups as, fun _ => List.mem_eraseDups, ordered_eraseDups as⟩

end

/-! ## adding items again -/

namespace Roster

theorem putAll_ofList (r : Roster key) (as : List α) :
    r.putAll (ofList as : Roster key).toList = r.putAll as := by
  refine ext_find? ?_ fun k => ?_
  · have hk : (ofList as : Roster key).toList.map key = (as.map key).eraseDups := keys_ofList as
    rw [keys_putAll, keys_putAll, hk, ← eraseDups_filter, eraseDups_of_nodup (nodup_eraseDups _)]
  · rw [find?_putAll, find?_putAll, ← find?_ofList, ofList_toList, find?_ofList]

theorem putAll_putAll (r : Roster key) (as : List α) : (r.putAll as).putAll as = r.putAll as := by
  refine ext_find? ?_ fun k => ?_
  · have hn : (as.map key).filter (· ∉ (r.putAll as).keys) = [] := by
      refine List.filter_eq_nil_iff.mpr fun k hk hm => ?_
      exact of_decide_eq_true hm ((mem_keys_putAll r as k).mpr (Or.inr hk))
    rw [keys_putAll (r.putAll as), hn]
    exact List.append_nil _
  · rw [find?_putAll (r.putAll as), find?_putAll, ← Option.or_assoc, Option.or_self]

end Roster

end StagedLoad
