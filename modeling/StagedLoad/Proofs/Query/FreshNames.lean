import Mathlib.Data.List.Nodup
import StagedLoad.Query.Alias

/-!
# Names given out are free

The search behind `Aliases.next` always ends at a name that is not reserved: every name it passes
over is a different reserved one (`nameOf_freeAbove`).  So names that are taken one after the
other are distinct, and none of them was reserved before (`fresh_take`).
-/

namespace StagedLoad.Aliases

/-! ## numbered names -/

theorem nameOf_injective : Function.Injective nameOf := by
  intro m n h
  have hl : (nameOf m).toList = (nameOf n).toList := by rw [h]
  unfold nameOf at hl
  rw [String.toList_append, String.toList_append, List.append_right_inj,
    Nat.toString_eq_repr, Nat.toString_eq_repr, Nat.toList_repr, Nat.toList_repr] at hl
  have hv := congrArg (fun ds => Nat.ofDigitChars 10 ds 0) hl
  simpa using hv

theorem isDigit_of_nameOf (n : Nat) : ∃ c, (nameOf n).toList.getLast? = some c ∧ c.isDigit := by
  have hne : Nat.toDigits 10 n ≠ [] := Nat.toDigits_ne_nil
  refine ⟨(Nat.toDigits 10 n).getLast hne, ?_, ?_⟩
  · unfold nameOf
    rw [String.toList_append, Nat.toString_eq_repr, Nat.toList_repr, List.getLast?_append,
      List.getLast?_eq_some_getLast hne]
    rfl
  · exact Nat.isDigit_of_mem_toDigits (by decide) (by decide) (List.getLast_mem hne)

/-! ## the search -/

theorem passed_of_mem {reserved : List String} {tries n : Nat}
    (h : nameOf (freeAbove reserved tries n) ∈ reserved) :
    ∀ k ≤ tries, nameOf (n + 1 + k) ∈ reserved := by
  induction tries generalizing n with
  | zero =>
    intro k hk
    have hk : k = 0 := by omega
    subst hk
    exact h
  | succ tries ih =>
    rw [freeAbove] at h
    split at h
    · next hc =>
      intro k hk
      cases k with
      | zero => exact List.contains_iff_mem.mp hc
      | succ k =>
        have := ih h k (by omega)
        rwa [show n + 1 + (k + 1) = n + 1 + 1 + k by omega]
    · next hc => exact absurd (List.contains_iff_mem.mpr h) hc

theorem nameOf_freeAbove (reserved : List String) (n : Nat) :
    nameOf (freeAbove reserved reserved.length n) ∉ reserved := by
  intro h
  have hp := passed_of_mem h
  -- one more distinct name than there are reserved ones
  let passed := (List.range (reserved.length + 1)).map fun k => nameOf (n + 1 + k)
  have hnd : passed.Nodup := by
    apply List.Nodup.map _ List.nodup_range
    intro a b hab
    have := nameOf_injective hab
    omega
  have hsub : passed ⊆ reserved := by
    intro x hx
    obtain ⟨k, hk, rfl⟩ := List.mem_map.mp hx
    exact hp k (by have := List.mem_range.mp hk; omega)
  have hle := hnd.length_le_of_subset hsub
  rw [List.length_map, List.length_range] at hle
  omega

/-! ## names one after the other -/

theorem next_not_reserved (a : Aliases) : a.next.1 ∉ a.reserved :=
  nameOf_freeAbove a.reserved a.last

theorem reserved_next (a : Aliases) : a.next.2.reserved = a.next.1 :: a.reserved := rfl

theorem take_succ (n : Nat) (a : Aliases) :
    take (n + 1) a = (a.next.1 :: (take n a.next.2).1, (take n a.next.2).2) := rfl

theorem length_take (n : Nat) (a : Aliases) : (take n a).1.length = n := by
  induction n generalizing a with
  | zero => rfl
  | succ n ih => rw [take_succ, List.length_cons, ih]

theorem fresh_take (n : Nat) (a : Aliases) :
    (take n a).1.Nodup ∧ ∀ name ∈ (take n a).1, name ∉ a.reserved := by
  induction n generalizing a with
  | zero => exact ⟨List.nodup_nil, fun _ h => nomatch h⟩
  | succ n ih =>
    obtain ⟨hnd, hf⟩ := ih a.next.2
    rw [reserved_next] at hf
    rw [take_succ]
    constructor
    · rw [List.nodup_cons]
      exact ⟨fun h => hf _ h (List.mem_cons_self ..), hnd⟩
    · intro name hm
      rcases List.mem_cons.mp hm with rfl | hm
      · exact next_not_reserved a
      · exact fun h => hf name hm (List.mem_cons_of_mem _ h)

theorem numbered_of_mem_take {n : Nat} {a : Aliases} {name : String} (h : name ∈ (take n a).1) :
    ∃ k, name = nameOf k := by
  induction n generalizing a with
  | zero => cases h
  | succ n ih =>
    rw [take_succ] at h
    rcases List.mem_cons.mp h with rfl | h
    · exact ⟨_, rfl⟩
    · exact ih h

end StagedLoad.Aliases
