import Mathlib.Data.List.Forall2
import StagedLoad.Journal

/-!
# Outcomes of computations that may fail

When a composed computation or a traversal succeeds: every part of it does.  Two computations can
be set side by side (`BothOrNeither`): traversals of lists agree when their steps do.
-/

namespace StagedLoad

variable {ε α β : Type}

theorem bind_eq_ok {x : Except ε α} {f : α → Except ε β} {b : β} :
    (x >>= f) = .ok b ↔ ∃ a, x = .ok a ∧ f a = .ok b := by
  cases x with
  | error p =>
    refine ⟨fun h => ?_, fun ⟨a, ha, _⟩ => ?_⟩
    · cases h
    · cases ha
  | ok a =>
    refine ⟨fun h => ⟨a, rfl, h⟩, fun ⟨a', ha, h⟩ => ?_⟩
    cases ha
    exact h

theorem map_eq_ok {x : Except ε α} {f : α → β} {b : β} :
    x.map f = .ok b ↔ ∃ a, x = .ok a ∧ f a = b := by
  cases x with
  | error p =>
    refine ⟨fun h => ?_, fun ⟨a, ha, _⟩ => ?_⟩
    · cases h
    · cases ha
  | ok a =>
    refine ⟨fun h => ⟨a, rfl, Except.ok.inj h⟩, fun ⟨a', ha, h⟩ => ?_⟩
    cases ha
    exact congrArg Except.ok h

theorem map_eq_error {x : Except ε α} {f : α → β} {p : ε} :
    x.map f = .error p ↔ x = .error p := by
  cases x with
  | error q =>
    exact ⟨fun h => congrArg _ (Except.error.inj h), fun h => congrArg _ (Except.error.inj h)⟩
  | ok a =>
    refine ⟨fun h => ?_, fun h => ?_⟩
    · cases h
    · cases h

theorem toOption_map_eq_some {x : Except ε α} {f : α → β} {b : β} :
    x.toOption.map f = some b ↔ ∃ a, x = .ok a ∧ f a = b := by
  cases x with
  | error p =>
    refine ⟨fun h => ?_, fun ⟨a, ha, _⟩ => ?_⟩
    · cases h
    · cases ha
  | ok a =>
    refine ⟨fun h => ⟨a, rfl, Option.some.inj h⟩, fun ⟨a', ha, h⟩ => ?_⟩
    cases ha
    exact congrArg some h

theorem bind_eq_error {x : Except ε α} {f : α → Except ε β} {p : ε} :
    (x >>= f) = .error p ↔ x = .error p ∨ ∃ a, x = .ok a ∧ f a = .error p := by
  cases x with
  | error q =>
    refine ⟨fun h => ?_, fun h => ?_⟩
    · cases h
      exact Or.inl rfl
    · rcases h with h | ⟨a, ha, _⟩
      · cases h
        rfl
      · cases ha
  | ok a =>
    refine ⟨fun h => Or.inr ⟨a, rfl, h⟩, fun h => ?_⟩
    rcases h with h | ⟨a', ha, h⟩
    · cases h
    · cases ha
      exact h

theorem ok_bind (a : α) (f : α → Except ε β) : (Except.ok a >>= f) = f a := rfl

theorem mapM_eq_ok {f : α → Except ε β} {as : List α} {bs : List β} :
    as.mapM f = .ok bs ↔ List.Forall₂ (fun a b => f a = .ok b) as bs := by
  induction as generalizing bs with
  | nil =>
    refine ⟨fun h => ?_, fun h => ?_⟩
    · cases h
      exact .nil
    · cases h
      rfl
  | cons a as ih =>
    rw [List.mapM_cons, bind_eq_ok]
    refine ⟨fun ⟨b, hb, h⟩ => ?_, fun h => ?_⟩
    · obtain ⟨bs', hbs, h⟩ := bind_eq_ok.mp h
      cases h
      exact .cons hb (ih.mp hbs)
    · cases h with
      | cons hb hbs => exact ⟨_, hb, bind_eq_ok.mpr ⟨_, ih.mpr hbs, rfl⟩⟩

theorem mapM_map {γ : Type} (f : α → Except ε β) (g : β → γ) (as : List α) :
    as.mapM (fun a => (f a).map g) = (as.mapM f).map (List.map g) := by
  induction as with
  | nil => rfl
  | cons a as ih =>
    rw [List.mapM_cons, List.mapM_cons, ih]
    cases f a with
    | error p => rfl
    | ok b => cases as.mapM f <;> rfl

theorem mapM_eq_ok_of_forall₂ {R : β → α → Prop} {f : α → Except ε β} {bs : List β}
    {as : List α} (h : List.Forall₂ R bs as) (hf : ∀ b ∈ bs, ∀ a, R b a → f a = .ok b) :
    as.mapM f = .ok bs := by
  rw [mapM_eq_ok]
  have hb := (List.forall₂_and_left bs as).mpr ⟨hf, h⟩
  exact List.Forall₂.flip (hb.imp fun b a ⟨hf, hr⟩ => hf a hr)

theorem mapM_cons_eq_error {f : α → Except ε β} {a : α} {as : List α} {p : ε} :
    (a :: as).mapM f = .error p ↔ f a = .error p ∨ (∃ b, f a = .ok b) ∧ as.mapM f = .error p := by
  rw [List.mapM_cons, bind_eq_error]
  refine or_congr_right ⟨fun ⟨b, hb, h⟩ => ?_, fun ⟨⟨b, hb⟩, h⟩ => ?_⟩
  · rcases bind_eq_error.mp h with h | ⟨bs, _, h⟩
    · exact ⟨⟨b, hb⟩, h⟩
    · cases h
  · exact ⟨b, hb, bind_eq_error.mpr (Or.inl h)⟩

theorem mapM_eq_error {f : α → Except ε β} {as : List α} {p : ε} :
    as.mapM f = .error p ↔ ∃ before a behind, as = before ++ a :: behind ∧
      (∀ b ∈ before, ∃ c, f b = .ok c) ∧ f a = .error p := by
  induction as with
  | nil =>
    refine ⟨fun h => ?_, fun ⟨before, a, behind, he, _⟩ => ?_⟩
    · cases h
    · cases before <;> cases he
  | cons a as ih =>
    rw [mapM_cons_eq_error, ih]
    constructor
    · intro h
      rcases h with h | ⟨ha, before, a', behind, rfl, hb, h⟩
      · exact ⟨[], a, as, rfl, (fun _ hb => nomatch hb), h⟩
      · exact ⟨a :: before, a', behind, rfl, List.forall_mem_cons.mpr ⟨ha, hb⟩, h⟩
    · rintro ⟨before, a', behind, he, hb, h⟩
      cases before with
      | nil =>
        cases he
        exact Or.inl h
      | cons b before =>
        cases he
        rw [List.forall_mem_cons] at hb
        exact Or.inr ⟨hb.1, before, a', behind, rfl, hb.2, h⟩

theorem exists_of_mapM_eq_error {f : α → Except ε β} {as : List α} {p : ε}
    (h : as.mapM f = .error p) : ∃ a ∈ as, f a = .error p := by
  obtain ⟨before, a, behind, rfl, _, h⟩ := mapM_eq_error.mp h
  exact ⟨a, List.mem_append_right _ (List.mem_cons_self ..), h⟩

theorem exists_of_mem_right {R : α → β → Prop} {as : List α} {bs : List β}
    (h : List.Forall₂ R as bs) {b : β} (hb : b ∈ bs) : ∃ a ∈ as, R a b := by
  induction h with
  | nil => cases hb
  | cons hr _ ih =>
    rcases List.mem_cons.mp hb with rfl | hb
    · exact ⟨_, List.mem_cons_self .., hr⟩
    · obtain ⟨a, ha, hr⟩ := ih hb
      exact ⟨a, List.mem_cons_of_mem _ ha, hr⟩

theorem exists_getElem?_right {R : α → β → Prop} {as : List α} {bs : List β}
    (h : List.Forall₂ R as bs) {i : Nat} {a : α} (ha : as[i]? = some a) :
    ∃ b, bs[i]? = some b ∧ R a b := by
  induction h generalizing i with
  | nil => cases ha
  | cons hr _ ih =>
    cases i with
    | zero =>
      obtain rfl := Option.some.inj ha
      exact ⟨_, rfl, hr⟩
    | succ i => exact ih ha

theorem map_eq_map_iff_forall₂ {γ : Type} {f : α → γ} {g : β → γ} {as : List α} {bs : List β} :
    as.map f = bs.map g ↔ List.Forall₂ (fun a b => f a = g b) as bs := by
  rw [← List.forall₂_eq_eq_eq, List.forall₂_map_left_iff, List.forall₂_map_right_iff]

theorem exists_split_of_forall₂ {R : α → β → Prop} {as : List α} {before behind : List β} {b : β}
    (h : List.Forall₂ R as (before ++ b :: behind)) :
    ∃ before' a behind', as = before' ++ a :: behind' ∧ R a b ∧
      List.Forall₂ R behind' behind := by
  induction before generalizing as with
  | nil =>
    cases h with
    | cons hr h => exact ⟨[], _, _, rfl, hr, h⟩
  | cons c before ih =>
    cases h with
    | cons _ h =>
      obtain ⟨before', a, behind', rfl, hr, h⟩ := ih h
      exact ⟨_ :: before', a, behind', rfl, hr, h⟩

theorem exists_mapM_eq_ok {f : α → Except ε β} {as : List α} (h : ∀ a ∈ as, ∃ b, f a = .ok b) :
    ∃ bs, as.mapM f = .ok bs := by
  cases hm : as.mapM f with
  | ok bs => exact ⟨bs, rfl⟩
  | error p =>
    obtain ⟨a, ha, he⟩ := exists_of_mapM_eq_error hm
    obtain ⟨b, hb⟩ := h a ha
    rw [hb] at he
    cases he

theorem exists_mapM_iff {f : α → Except ε β} {as : List α} :
    (∃ bs, as.mapM f = .ok bs) ↔ ∀ a ∈ as, ∃ b, f a = .ok b := by
  refine ⟨fun ⟨bs, h⟩ a ha => ?_, exists_mapM_eq_ok⟩
  obtain ⟨i, hi⟩ := List.getElem?_of_mem ha
  obtain ⟨b, _, hb⟩ := exists_getElem?_right (mapM_eq_ok.mp h) hi
  exact ⟨b, hb⟩

theorem filterM_eq_ok {f : α → Except ε Bool} {as : List α} {p : α → Bool}
    (h : ∀ a ∈ as, f a = .ok (p a)) : as.filterM f = .ok (as.filter p) := by
  have ha : ∀ acc, List.filterAuxM f as acc = .ok ((as.filter p).reverse ++ acc) := by
    induction as with
    | nil => exact fun acc => rfl
    | cons a as ih =>
      rw [List.forall_mem_cons] at h
      intro acc
      rw [List.filterAuxM, h.1, ok_bind, ih h.2, List.filter_cons]
      cases p a <;> simp
  rw [List.filterM, ha, ok_bind]
  simp
  rfl

/-! ## two computations side by side -/

/-- both computations fail, or both succeed with related results -/
inductive BothOrNeither (R : α → β → Prop) : Except ε α → Except ε β → Prop
  | ok {a : α} {b : β} (related : R a b) : BothOrNeither R (.ok a) (.ok b)
  | error (p q : ε) : BothOrNeither R (.error p) (.error q)

namespace BothOrNeither
variable {γ δ : Type} {R : α → β → Prop} {S : γ → δ → Prop}

theorem error_or_ok {x : Except ε α} {y : Except ε β} (h : BothOrNeither R x y) :
    (∃ p q, x = .error p ∧ y = .error q) ∨ ∃ a b, x = .ok a ∧ y = .ok b ∧ R a b := by
  cases h with
  | ok hab => exact Or.inr ⟨_, _, rfl, rfl, hab⟩
  | error p q => exact Or.inl ⟨p, q, rfl, rfl⟩

theorem ok_iff {a : α} {b : β} :
    BothOrNeither R (.ok a : Except ε α) (.ok b : Except ε β) ↔ R a b := by
  refine ⟨fun h => ?_, .ok⟩
  cases h with
  | ok hab => exact hab

theorem of_not_ok {x : Except ε α} {y : Except ε β} (hx : ¬ ∃ a, x = .ok a)
    (hy : ¬ ∃ b, y = .ok b) : BothOrNeither R x y := by
  cases x with
  | ok a => exact absurd ⟨a, rfl⟩ hx
  | error p =>
    cases y with
    | ok b => exact absurd ⟨b, rfl⟩ hy
    | error q => exact .error p q

theorem map {x : Except ε α} {y : Except ε β} {f : α → γ} {g : β → δ} (h : BothOrNeither R x y)
    (hf : ∀ a b, R a b → S (f a) (g b)) : BothOrNeither S (x.map f) (y.map g) := by
  cases h with
  | ok hab => exact .ok (hf _ _ hab)
  | error p q => exact .error p q

theorem mapM {f : γ → Except ε α} {g : δ → Except ε β} {cs : List γ} {ds : List δ}
    (h : List.Forall₂ (fun c d => BothOrNeither R (f c) (g d)) cs ds) :
    BothOrNeither (List.Forall₂ R) (cs.mapM f) (ds.mapM g) := by
  induction h with
  | nil => exact .ok .nil
  | @cons c d cs ds hcd _ ih =>
    rw [List.mapM_cons, List.mapM_cons]
    rcases hcd.error_or_ok with ⟨p, q, hc, hd⟩ | ⟨a, b, hc, hd, hab⟩
    · rw [hc, hd]
      exact .error p q
    · rw [hc, hd]
      exact ih.map (S := List.Forall₂ R) fun _ _ hr => .cons hab hr

end BothOrNeither

end StagedLoad
