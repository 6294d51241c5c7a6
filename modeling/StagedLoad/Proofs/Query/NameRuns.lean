import Mathlib.Data.List.Induction
import Mathlib.Order.Interval.Finset.Nat
import StagedLoad.Proofs.Query.FreshNames

/-!
# Names asked for one at a time

Names are kept back and asked for in any order.  A name that is asked for is searched for: the
numbers behind the last one given out are tried one after the other.  The search has no bound of
its own (`Searches`).  It ends because different numbers have different names, so that every try
but the last uses up another name that was kept back (`searches_next`, `tries_le`).

What a run of requests does to the names is told by the names kept back and the names given out
in it (`Tracks`), and so every name given out is the next free one (`NextFree`).
-/

namespace StagedLoad.Aliases

/-! ## the search -/

/-- the search for a free name, which goes on until it finds one, with the number of names that
it tries -/
inductive Searches : Aliases → (tries : Nat) → String × Aliases → Prop
  | found {a : Aliases} (free : nameOf (a.last + 1) ∉ a.reserved) :
      Searches a 1 (nameOf (a.last + 1),
        { reserved := nameOf (a.last + 1) :: a.reserved, last := a.last + 1 })
  | passed {a : Aliases} {tries : Nat} {r : String × Aliases}
      (taken : nameOf (a.last + 1) ∈ a.reserved)
      (behind : Searches { a with last := a.last + 1 } tries r) : Searches a (tries + 1) r

theorem Searches.unique {a : Aliases} {m n : Nat} {r s : String × Aliases}
    (hr : Searches a m r) (hs : Searches a n s) : m = n ∧ r = s := by
  induction hr generalizing n with
  | found free =>
    cases hs with
    | found _ => exact ⟨rfl, rfl⟩
    | passed taken _ => exact absurd taken free
  | passed taken _ ih =>
    cases hs with
    | found free => exact absurd taken free
    | passed _ behind =>
      obtain ⟨hn, hr⟩ := ih behind
      exact ⟨congrArg (· + 1) hn, hr⟩

theorem mem_of_lt_freeAbove {reserved : List String} {tries m n : Nat} (hn : n < m)
    (hm : m < freeAbove reserved tries n) : nameOf m ∈ reserved := by
  induction tries generalizing n with
  | zero =>
    rw [freeAbove] at hm
    omega
  | succ tries ih =>
    rw [freeAbove] at hm
    split at hm
    · next hc =>
      by_cases h : m = n + 1
      · subst h
        exact List.contains_iff_mem.mp hc
      · exact ih (by omega) hm
    · omega

theorem isLeast_freeAbove (reserved : List String) (n : Nat) :
    IsLeast {m | n < m ∧ nameOf m ∉ reserved} (freeAbove reserved reserved.length n) := by
  refine ⟨⟨lt_freeAbove reserved reserved.length n, nameOf_freeAbove reserved n⟩, ?_⟩
  intro m ⟨hn, hm⟩
  by_contra h
  exact hm (mem_of_lt_freeAbove hn (Nat.lt_of_not_le h))

theorem searches_of_taken {a : Aliases} {passed : Nat}
    (ht : ∀ m, a.last < m → m ≤ a.last + passed → nameOf m ∈ a.reserved)
    (hf : nameOf (a.last + passed + 1) ∉ a.reserved) :
    Searches a (passed + 1) (nameOf (a.last + passed + 1),
      { reserved := nameOf (a.last + passed + 1) :: a.reserved, last := a.last + passed + 1 }) := by
  induction passed generalizing a with
  | zero => exact .found hf
  | succ passed ih =>
    have he : a.last + (passed + 1) = a.last + 1 + passed := by omega
    rw [he] at ht hf ⊢
    refine .passed (ht _ (by omega) (by omega)) ?_
    exact ih (a := { a with last := a.last + 1 }) (fun m hm => ht m (Nat.lt_of_succ_lt hm)) hf

theorem searches_next (a : Aliases) : Searches a (a.next.2.last - a.last) a.next := by
  have hl : a.last < a.next.2.last := lt_freeAbove a.reserved a.reserved.length a.last
  obtain ⟨passed, hp⟩ : ∃ passed, a.next.2.last = a.last + passed + 1 :=
    ⟨a.next.2.last - a.last - 1, by omega⟩
  have hn : a.next = (nameOf (a.last + passed + 1),
      { reserved := nameOf (a.last + passed + 1) :: a.reserved, last := a.last + passed + 1 }) := by
    rw [← hp]
    rfl
  have ht : a.next.2.last - a.last = passed + 1 := by omega
  rw [ht, hn]
  refine searches_of_taken (fun m hm hle => ?_) ?_
  · exact mem_of_lt_freeAbove hm (show m < a.next.2.last by omega)
  · rw [← hp]
    exact nameOf_freeAbove a.reserved a.last

theorem tries_le {a : Aliases} {names : List String}
    (h : ∀ m, a.last < m → m < a.next.2.last → nameOf m ∈ names) :
    a.next.2.last - a.last ≤ names.toFinset.card + 1 := by
  have hs : (Finset.Ioo a.last a.next.2.last).image nameOf ⊆ names.toFinset := by
    intro name hname
    obtain ⟨m, hm, rfl⟩ := Finset.mem_image.mp hname
    obtain ⟨hl, hu⟩ := Finset.mem_Ioo.mp hm
    exact List.mem_toFinset.mpr (h m hl hu)
  have hc := Finset.card_le_card hs
  rw [Finset.card_image_of_injective _ nameOf_injective, Nat.card_Ioo] at hc
  omega

/-! ## runs of requests -/

inductive Request where
  | reserve (name : String)
  | next

def Request.reserved? : Request → Option String
  | .reserve name => some name
  | .next => none

/-- the name that a request is answered with, if any, and the names behind it -/
def serve (a : Aliases) : Request → Option String × Aliases
  | .reserve name => (none, a.reserve name)
  | .next => (some a.next.1, a.next.2)

def serveAll : Aliases → List Request → List (Option String) × Aliases
  | a, [] => ([], a)
  | a, r :: rs =>
    let (answer, a) := a.serve r
    let (answers, a) := a.serveAll rs
    (answer :: answers, a)

def reservedBy (rs : List Request) : List String := rs.filterMap Request.reserved?

def givenBy (answers : List (Option String)) : List String := answers.filterMap id

theorem serveAll_cons (a : Aliases) (r : Request) (rs : List Request) :
    a.serveAll (r :: rs) = ((a.serve r).1 :: ((a.serve r).2.serveAll rs).1,
      ((a.serve r).2.serveAll rs).2) := rfl

theorem serveAll_append (a : Aliases) (rs ss : List Request) :
    a.serveAll (rs ++ ss) = ((a.serveAll rs).1 ++ ((a.serveAll rs).2.serveAll ss).1,
      ((a.serveAll rs).2.serveAll ss).2) := by
  induction rs generalizing a with
  | nil => rfl
  | cons r rs ih =>
    rw [List.cons_append, serveAll_cons, ih, serveAll_cons]
    rfl

theorem reservedBy_append (rs ss : List Request) :
    reservedBy (rs ++ ss) = reservedBy rs ++ reservedBy ss := List.filterMap_append

theorem givenBy_append (as bs : List (Option String)) :
    givenBy (as ++ bs) = givenBy as ++ givenBy bs := List.filterMap_append

/-! ## the next free name -/

def LastNumber (given : List String) (n : Nat) : Prop :=
  match given.getLast? with
  | none => n = 0
  | some name => name = nameOf n

/-- a name that is neither kept back nor given out before, and whose number is the first behind
that of the name given out last to have a name that is not kept back -/
structure NextFree (asked given : List String) (name : String) : Prop where
  not_asked : name ∉ asked
  not_given : name ∉ given
  least : ∃ previous n, LastNumber given previous ∧ name = nameOf n ∧
    IsLeast {m | previous < m ∧ nameOf m ∉ asked} n

/-- the names that are taken are those kept back and those given out, and the last number belongs
to the name given out last -/
structure Tracks (asked given : List String) (a : Aliases) : Prop where
  mem_iff : ∀ name, name ∈ a.reserved ↔ name ∈ asked ∨ name ∈ given
  numbered : ∀ name ∈ given, ∃ n ≤ a.last, name = nameOf n
  last : LastNumber given a.last

namespace Tracks
variable {asked given : List String} {a : Aliases}

theorem start : Tracks [] [] {} where
  mem_iff _ := by simp
  numbered _ h := nomatch h
  last := rfl

theorem reserve (h : Tracks asked given a) (name : String) :
    Tracks (asked ++ [name]) given (a.reserve name) where
  mem_iff other := by
    rw [show (a.reserve name).reserved = name :: a.reserved from rfl, List.mem_cons, h.mem_iff,
      List.mem_append, List.mem_singleton]
    tauto
  numbered := h.numbered
  last := h.last

theorem next (h : Tracks asked given a) : Tracks asked (given ++ [a.next.1]) a.next.2 where
  mem_iff other := by
    rw [reserved_next, List.mem_cons, h.mem_iff, List.mem_append, List.mem_singleton]
    tauto
  numbered other ho := by
    have hl : a.last < a.next.2.last := lt_freeAbove a.reserved a.reserved.length a.last
    rcases List.mem_append.mp ho with ho | ho
    · obtain ⟨n, hn, rfl⟩ := h.numbered other ho
      exact ⟨n, by omega, rfl⟩
    · exact ⟨a.next.2.last, le_rfl, List.mem_singleton.mp ho⟩
  last := by
    unfold LastNumber
    rw [List.getLast?_concat]
    rfl

theorem mem_asked_iff (h : Tracks asked given a) {m : Nat} (hm : a.last < m) :
    nameOf m ∈ a.reserved ↔ nameOf m ∈ asked := by
  rw [h.mem_iff]
  refine ⟨fun ho => ho.resolve_right fun hg => ?_, Or.inl⟩
  obtain ⟨n, hn, he⟩ := h.numbered _ hg
  have := nameOf_injective he
  omega

theorem nextFree (h : Tracks asked given a) : NextFree asked given a.next.1 where
  not_asked hm := next_not_reserved a ((h.mem_iff _).mpr (Or.inl hm))
  not_given hm := next_not_reserved a ((h.mem_iff _).mpr (Or.inr hm))
  least := by
    refine ⟨a.last, a.next.2.last, h.last, rfl, ?_⟩
    have hs : {m | a.last < m ∧ nameOf m ∉ asked} = {m | a.last < m ∧ nameOf m ∉ a.reserved} := by
      ext m
      exact and_congr_right fun hm => not_congr (h.mem_asked_iff hm).symm
    rw [hs]
    exact isLeast_freeAbove a.reserved a.last

theorem tries_le (h : Tracks asked given a) :
    a.next.2.last - a.last ≤ asked.toFinset.card + 1 :=
  Aliases.tries_le fun _ hm hlt => (h.mem_asked_iff hm).mp (mem_of_lt_freeAbove hm hlt)

end Tracks

theorem tracks_serveAll (rs : List Request) :
    Tracks (reservedBy rs) (givenBy (serveAll {} rs).1) (serveAll {} rs).2 := by
  -- along the run from behind, as the last request is the one that was served last
  induction rs using List.reverseRecOn with
  | nil => exact .start
  | append_singleton rs r ih =>
    rw [serveAll_append, reservedBy_append, givenBy_append]
    cases r with
    | reserve name =>
      have hg : givenBy (serveAll {} rs).1 ++ givenBy [none] = givenBy (serveAll {} rs).1 :=
        List.append_nil _
      show Tracks _ (givenBy (serveAll {} rs).1 ++ givenBy [none]) _
      rw [hg]
      exact ih.reserve name
    | next =>
      have ha : reservedBy rs ++ reservedBy [.next] = reservedBy rs := List.append_nil _
      rw [ha]
      exact ih.next

/-- **Whenever a name is asked for, the search for it ends, after one try more at most than there
are names kept back, and the name given out is the next free one.** -/
theorem serveAll_gives_nextFree (before behind : List Request) :
    ∃ name a, ∃ tries ≤ (reservedBy before).toFinset.card + 1,
      (∀ k r, Searches (serveAll {} before).2 k r ↔ k = tries ∧ r = (name, a)) ∧
      (serveAll {} (before ++ .next :: behind)).1 =
        (serveAll {} before).1 ++ some name :: (serveAll a behind).1 ∧
      NextFree (reservedBy before) (givenBy (serveAll {} before).1) name := by
  have ht := tracks_serveAll before
  have hs := searches_next (serveAll {} before).2
  refine ⟨(serveAll {} before).2.next.1, (serveAll {} before).2.next.2, _, ht.tries_le, ?_, ?_,
    ht.nextFree⟩
  · intro k r
    refine ⟨fun h => h.unique hs, fun ⟨hk, hr⟩ => ?_⟩
    rw [hk, hr]
    exact hs
  · rw [serveAll_append, serveAll_cons]
    rfl

/-- names that look alike do not stand in the way; a name may be kept back at any time, twice, or
after it was given out -/
example :
    givenBy (serveAll {} [.reserve "t2", .reserve "t01", .next, .reserve "t2", .next,
      .reserve "t1", .reserve "t5", .reserve "t4", .next]).1 = ["t1", "t3", "t6"] := by
  decide +kernel

end StagedLoad.Aliases
