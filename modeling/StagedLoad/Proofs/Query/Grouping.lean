import StagedLoad.Proofs.Query.ExprReading

/-!
# Comparisons in a row

A comparison is written as its operands with a sign between them or `IS NULL` behind them.  Where
an operand is a comparison itself, several signs stand in a row, and which of them is the outer one
is not written.  Expressions that differ in nothing else (`Regrouped`) have the same SQL in every
dialect (`Regrouped.toSql_eq`).

Among them there is one in which every sign takes all that stands in front of it for its left
operand (`Expr.grouped`).  An expression is the only one of its kind exactly when no two signs
stand in a row in a way that could be grouped otherwise (`Expr.isSeparate`,
`isSeparate_iff_forall_regrouped`).
-/

namespace StagedLoad.Expr

/-! ## the two signs -/

inductive Sign where
  | eq
  | ne
  deriving DecidableEq, Repr

namespace Sign

def of : Sign → Expr → Expr → Expr
  | .eq => Expr.eq
  | .ne => Expr.ne

def text : Sign → String
  | .eq => " = "
  | .ne => " <> "

theorem of_inj {s t : Sign} {l l' r r' : Expr} :
    s.of l r = t.of l' r' ↔ s = t ∧ l = l' ∧ r = r' := by
  cases s <;> cases t <;> simp [of]

theorem of_ne_left (s : Sign) (l r : Expr) : s.of l r ≠ l := by
  intro h
  have hs : sizeOf (s.of l r) = 1 + sizeOf l + sizeOf r := by cases s <;> rfl
  rw [h] at hs
  omega

theorem of_ne_isNull (s : Sign) (l r e : Expr) : s.of l r ≠ isNull e := by
  intro h
  cases s <;> cases h

end Sign

/-- induction over expressions, the two signs taken together -/
@[elab_as_elim]
theorem signs_induction {P : Expr → Prop} (column : ∀ q c, P (column q c)) (text : ∀ v, P (text v))
    (raw : ∀ sql, P (raw sql)) (compared : ∀ (s : Sign) l r, P l → P r → P (s.of l r))
    (isNull : ∀ e, P e → P (isNull e)) (or : ∀ l r, P l → P r → P (or l r))
    (lower : ∀ e, P e → P (lower e)) (castText : ∀ e, P e → P (castText e)) (e : Expr) : P e := by
  induction e with
  | column q c => exact column q c
  | text v => exact text v
  | raw sql => exact raw sql
  | eq l r hl hr => exact compared .eq l r hl hr
  | ne l r hl hr => exact compared .ne l r hl hr
  | isNull e h => exact isNull e h
  | or l r hl hr => exact or l r hl hr
  | lower e h => exact lower e h
  | castText e h => exact castText e h

/-- some part of the expression is SQL from outside -/
def hasRaw : Expr → Bool
  | .column _ _ => false
  | .text _ => false
  | .raw _ => true
  | .eq l r => l.hasRaw || r.hasRaw
  | .ne l r => l.hasRaw || r.hasRaw
  | .isNull e => e.hasRaw
  | .or l r => l.hasRaw || r.hasRaw
  | .lower e => e.hasRaw
  | .castText e => e.hasRaw

section
variable (s : Sign) (l r : Expr)

theorem toSql_of (d : Dialect) : (s.of l r).toSql d = l.toSql d ++ s.text ++ r.toSql d := by
  cases s <;> rfl

theorem hasRaw_of : (s.of l r).hasRaw = (l.hasRaw || r.hasRaw) := by
  cases s <;> rfl

end

/-! ## other groupings -/

/-- the expressions differ in nothing but which of several comparisons in a row is the outer one -/
inductive Regrouped : Expr → Expr → Prop where
  | refl (x : Expr) : Regrouped x x
  | symm {x y : Expr} : Regrouped x y → Regrouped y x
  | trans {x y z : Expr} : Regrouped x y → Regrouped y z → Regrouped x z
  | signs (s t : Sign) (x y z : Expr) : Regrouped (t.of (s.of x y) z) (s.of x (t.of y z))
  | signNull (s : Sign) (x y : Expr) : Regrouped (isNull (s.of x y)) (s.of x (isNull y))
  | compared (s : Sign) {l l' r r' : Expr} :
    Regrouped l l' → Regrouped r r' → Regrouped (s.of l r) (s.of l' r')
  | isNull {e e' : Expr} : Regrouped e e' → Regrouped (isNull e) (isNull e')
  | or {l l' r r' : Expr} : Regrouped l l' → Regrouped r r' → Regrouped (or l r) (or l' r')
  | lower {e e' : Expr} : Regrouped e e' → Regrouped (lower e) (lower e')
  | castText {e e' : Expr} : Regrouped e e' → Regrouped (castText e) (castText e')

namespace Regrouped
variable {x y : Expr}

theorem toSql_eq (h : Regrouped x y) (d : Dialect) : x.toSql d = y.toSql d := by
  induction h with
  | refl => rfl
  | symm _ ih => exact ih.symm
  | trans _ _ hxy hyz => exact hxy.trans hyz
  | signs s t x y z => simp only [toSql_of, String.append_assoc]
  | signNull s x y => simp only [toSql_of, toSql, String.append_assoc]
  | compared s _ _ hl hr => rw [toSql_of, toSql_of, hl, hr]
  | isNull _ ih => rw [toSql, toSql, ih]
  | or _ _ hl hr => rw [toSql, toSql, hl, hr]
  | lower _ ih => rw [toSql, toSql, ih]
  | castText _ ih => rw [toSql, toSql, ih]

theorem hasRaw_eq (h : Regrouped x y) : x.hasRaw = y.hasRaw := by
  induction h with
  | refl => rfl
  | symm _ ih => exact ih.symm
  | trans _ _ hxy hyz => exact hxy.trans hyz
  | signs s t x y z => simp only [hasRaw_of, Bool.or_assoc]
  | signNull s x y => simp only [hasRaw_of, hasRaw]
  | compared s _ _ hl hr => rw [hasRaw_of, hasRaw_of, hl, hr]
  | isNull _ ih => exact ih
  | or _ _ hl hr => rw [hasRaw, hasRaw, hl, hr]
  | lower _ ih => exact ih
  | castText _ ih => exact ih

end Regrouped

/-! ## grouping to the left -/

/-- a comparison with the first operand of what stands behind its sign -/
def Sign.onFirst (s : Sign) (l : Expr) : Expr → Expr
  | .eq x y => .eq (s.onFirst l x) y
  | .ne x y => .ne (s.onFirst l x) y
  | .isNull x => .isNull (s.onFirst l x)
  | r => s.of l r

/-- the expression in which every sign takes all that stands in front of it for its left operand -/
def grouped : Expr → Expr
  | .column q c => .column q c
  | .text v => .text v
  | .raw sql => .raw sql
  | .eq l r => Sign.eq.onFirst l.grouped r.grouped
  | .ne l r => Sign.ne.onFirst l.grouped r.grouped
  | .isNull e => .isNull e.grouped
  | .or l r => .or l.grouped r.grouped
  | .lower e => .lower e.grouped
  | .castText e => .castText e.grouped

theorem onFirst_of (s t : Sign) (l x y : Expr) :
    s.onFirst l (t.of x y) = t.of (s.onFirst l x) y := by
  cases t <;> rfl

theorem grouped_of (s : Sign) (l r : Expr) :
    (s.of l r).grouped = s.onFirst l.grouped r.grouped := by
  cases s <;> rfl

theorem regrouped_onFirst (s : Sign) (l r : Expr) : Regrouped (s.onFirst l r) (s.of l r) := by
  induction r using signs_induction with
  | compared t x y hx _ =>
    rw [onFirst_of]
    exact .trans (.compared t hx (.refl y)) (.signs s t l x y)
  | isNull x hx => exact .trans (.isNull hx) (.signNull s l x)
  | column | text | raw | or | lower | castText => exact .refl _

theorem regrouped_grouped (e : Expr) : Regrouped e.grouped e := by
  induction e using signs_induction with
  | column | text | raw => exact .refl _
  | compared s l r hl hr =>
    rw [grouped_of]
    exact .trans (regrouped_onFirst s _ _) (.compared s hl hr)
  | isNull e h => exact .isNull h
  | or l r hl hr => exact .or hl hr
  | lower e h => exact .lower h
  | castText e h => exact .castText h

/-! ## expressions with one grouping only -/

def isTwoSided : Expr → Bool
  | .eq _ _ => true
  | .ne _ _ => true
  | _ => false

/-- nowhere in the expression do comparisons stand in a row so that another one of them could be
the outer one: `IS NULL` may stand behind `IS NULL`, and in front of a sign -/
def isSeparate : Expr → Bool
  | .column _ _ => true
  | .text _ => true
  | .raw _ => true
  | .eq l r => !l.isTwoSided && !r.isComparison && l.isSeparate && r.isSeparate
  | .ne l r => !l.isTwoSided && !r.isComparison && l.isSeparate && r.isSeparate
  | .isNull e => !e.isTwoSided && e.isSeparate
  | .or l r => l.isSeparate && r.isSeparate
  | .lower e => e.isSeparate
  | .castText e => e.isSeparate

section
variable (s : Sign) (l r : Expr)

@[simp] theorem isTwoSided_of : (s.of l r).isTwoSided = true := by
  cases s <;> rfl

@[simp] theorem isComparison_of : (s.of l r).isComparison = true := by
  cases s <;> rfl

theorem isSeparate_of : (s.of l r).isSeparate =
    (!l.isTwoSided && !r.isComparison && l.isSeparate && r.isSeparate) := by
  cases s <;> rfl

end

theorem exists_of_isTwoSided {e : Expr} (h : e.isTwoSided = true) : ∃ s l r, e = Sign.of s l r := by
  cases e with
  | eq l r => exact ⟨.eq, l, r, rfl⟩
  | ne l r => exact ⟨.ne, l, r, rfl⟩
  | column | text | raw | isNull | or | lower | castText => cases h

theorem comparison_cases {e : Expr} (h : e.isComparison = true) :
    (∃ s l r, e = Sign.of s l r) ∨ ∃ i, e = .isNull i := by
  cases e with
  | eq | ne => exact .inl (exists_of_isTwoSided rfl)
  | isNull i => exact .inr ⟨i, rfl⟩
  | column | text | raw | or | lower | castText => cases h

theorem Regrouped.eq_of_isSeparate {x y : Expr} (h : Regrouped x y) :
    x.isSeparate = true ∨ y.isSeparate = true → x = y := by
  induction h with
  | refl x => exact fun _ => rfl
  | symm _ ih => exact fun hs => (ih hs.symm).symm
  | trans _ _ hxy hyz =>
    rintro (hs | hs)
    · have he := hxy (.inl hs)
      subst he
      exact hyz (.inl hs)
    · have he := hyz (.inr hs)
      subst he
      exact hxy (.inr hs)
  | signs s t x y z => simp [isSeparate_of]
  | signNull s x y => simp [isSeparate_of, isSeparate, isComparison]
  | compared s _ _ hl hr =>
    intro hs
    simp only [isSeparate_of, Bool.and_eq_true] at hs
    rw [hl (hs.imp (·.1.2) (·.1.2)), hr (hs.imp (·.2) (·.2))]
  | isNull _ ih =>
    intro hs
    simp only [isSeparate, Bool.and_eq_true] at hs
    rw [ih (hs.imp (·.2) (·.2))]
  | or _ _ hl hr =>
    intro hs
    simp only [isSeparate, Bool.and_eq_true] at hs
    rw [hl (hs.imp (·.1) (·.1)), hr (hs.imp (·.2) (·.2))]
  | lower _ ih => exact fun hs => congrArg _ (ih hs)
  | castText _ ih => exact fun hs => congrArg _ (ih hs)

theorem exists_regrouped_of {s : Sign} {l r : Expr}
    (h : l.isTwoSided = true ∨ r.isComparison = true) :
    ∃ y, Regrouped y (s.of l r) ∧ y ≠ s.of l r := by
  rcases h with h | h
  · obtain ⟨t, a, b, rfl⟩ := exists_of_isTwoSided h
    refine ⟨t.of a (s.of b r), (Regrouped.signs t s a b r).symm, fun he => ?_⟩
    exact t.of_ne_left a b (Sign.of_inj.mp he).2.1.symm
  · rcases comparison_cases h with ⟨t, a, b, rfl⟩ | ⟨a, rfl⟩
    · refine ⟨t.of (s.of l a) b, .signs s t l a b, fun he => ?_⟩
      exact s.of_ne_left l a (Sign.of_inj.mp he).2.1
    · exact ⟨.isNull (s.of l a), .signNull s l a, (s.of_ne_isNull _ _ _).symm⟩

theorem exists_regrouped_part {make : Expr → Expr → Expr} {l r : Expr}
    (hm : ∀ a b, Regrouped a l → Regrouped b r → Regrouped (make a b) (make l r))
    (hi : ∀ a b, make a b = make l r → a = l ∧ b = r)
    (hl : l.isSeparate = false → ∃ y, Regrouped y l ∧ y ≠ l)
    (hr : r.isSeparate = false → ∃ y, Regrouped y r ∧ y ≠ r)
    (h : (l.isSeparate && r.isSeparate) = false) :
    ∃ y, Regrouped y (make l r) ∧ y ≠ make l r := by
  rcases Bool.and_eq_false_iff.mp h with h | h
  · obtain ⟨y, hy, hne⟩ := hl h
    exact ⟨make y r, hm y r hy (.refl r), fun he => hne (hi y r he).1⟩
  · obtain ⟨y, hy, hne⟩ := hr h
    exact ⟨make l y, hm l y (.refl l) hy, fun he => hne (hi l y he).2⟩

theorem exists_regrouped_ne {x : Expr} (h : x.isSeparate = false) : ∃ y, Regrouped y x ∧ y ≠ x := by
  induction x using signs_induction with
  | column | text | raw => cases h
  | compared s l r hl hr =>
    by_cases ho : l.isTwoSided = true ∨ r.isComparison = true
    · exact exists_regrouped_of ho
    · -- this sign is the outer one in any case, so a part has another grouping
      simp only [not_or, Bool.not_eq_true] at ho
      rw [isSeparate_of, ho.1, ho.2] at h
      exact exists_regrouped_part (fun _ _ => .compared s) (fun _ _ he => (Sign.of_inj.mp he).2)
        hl hr h
  | isNull e ih =>
    by_cases ht : e.isTwoSided = true
    · obtain ⟨t, a, b, rfl⟩ := exists_of_isTwoSided ht
      exact ⟨t.of a (.isNull b), (Regrouped.signNull t a b).symm, t.of_ne_isNull _ _ _⟩
    · rw [Bool.not_eq_true] at ht
      rw [isSeparate, ht] at h
      obtain ⟨y, hy, hne⟩ := ih h
      exact ⟨.isNull y, .isNull hy, fun he => hne (Expr.isNull.inj he)⟩
  | or l r hl hr =>
    exact exists_regrouped_part (fun _ _ => .or) (fun _ _ => Expr.or.inj) hl hr h
  | lower e ih =>
    obtain ⟨y, hy, hne⟩ := ih h
    exact ⟨.lower y, .lower hy, fun he => hne (Expr.lower.inj he)⟩
  | castText e ih =>
    obtain ⟨y, hy, hne⟩ := ih h
    exact ⟨.castText y, .castText hy, fun he => hne (Expr.castText.inj he)⟩

/-- **An expression has one grouping only exactly when it is separate.** -/
theorem isSeparate_iff_forall_regrouped {x : Expr} :
    x.isSeparate = true ↔ ∀ y, Regrouped y x → y = x := by
  constructor
  · intro h y hy
    exact hy.eq_of_isSeparate (.inr h)
  · intro h
    rw [← Bool.not_eq_false]
    intro hs
    obtain ⟨y, hy, hne⟩ := exists_regrouped_ne hs
    exact hne (h y hy)

end StagedLoad.Expr
