import StagedLoad.Proofs.Query.Grouping
import StagedLoad.Proofs.Query.Meaning

/-!
# What the SQL of an expression tells

The SQL of an expression is a row of comparisons behind a first operand, and what each of them is
compared with is told by its own parentheses and quotes.  So all of an expression is read back from
its SQL but the order of the comparisons in a row: what is read has them grouped to the left
(`reads_grouped`).

Two expressions without SQL from outside therefore have the same SQL exactly when they are grouped
differently at most, and an expression is known by its SQL exactly when it is separate
(`toSql_eq_iff_regrouped`).  Comparisons as operands are written without parentheses, so there are
conditions of different truth with the same SQL (`not_toSql_injective_missing_columns`).
-/

namespace StagedLoad.Expr

open Text

/-! ## rows of comparisons -/

/-- what a comparison has behind its first operand -/
inductive Tail where
  | compared (s : Sign) (operand : Expr)
  | isNull

def Tail.on (e : Expr) : Tail → Expr
  | .compared s o => s.of e o
  | .isNull => .isNull e

def head : Expr → Expr
  | .eq l _ => l.head
  | .ne l _ => l.head
  | .isNull e => e.head
  | e => e

def tails : Expr → List Tail
  | .eq l r => l.tails ++ [.compared .eq r]
  | .ne l r => l.tails ++ [.compared .ne r]
  | .isNull e => e.tails ++ [.isNull]
  | _ => []

section
variable (s : Sign) (l r : Expr)

theorem head_of : (s.of l r).head = l.head := by
  cases s <;> rfl

theorem tails_of : (s.of l r).tails = l.tails ++ [.compared s r] := by
  cases s <;> rfl

theorem levels_of : (s.of l r).levels = max l.levels r.levels := by
  cases s <;> rfl

end

theorem foldl_tails (e : Expr) : e.tails.foldl Tail.on e.head = e := by
  induction e using signs_induction with
  | column | text | raw | or | lower | castText => rfl
  | compared s l r hl _ =>
    rw [head_of, tails_of, List.foldl_append, hl]
    rfl
  | isNull e h =>
    rw [head, tails, List.foldl_append, h]
    rfl

theorem isComparison_head (e : Expr) : e.head.isComparison = false := by
  induction e using signs_induction with
  | column | text | raw | or | lower | castText => rfl
  | compared s l r hl _ => rwa [head_of]
  | isNull e h => exact h

section
variable (d : Dialect)

def Tail.chars : Tail → List Char
  | .compared s o => s.text.toList ++ o.chars d
  | .isNull => " IS NULL".toList

theorem chars_of (s : Sign) (l r : Expr) :
    (s.of l r).chars d = l.chars d ++ (s.text.toList ++ r.chars d) := by
  rw [chars, toSql_of, String.toList_append, String.toList_append, List.append_assoc]
  rfl

theorem chars_tails (e : Expr) : e.chars d = e.head.chars d ++ e.tails.flatMap (Tail.chars d) := by
  induction e using signs_induction with
  | column | text | raw | or | lower | castText => exact (List.append_nil _).symm
  | compared s l r hl _ =>
    rw [chars_of, head_of, tails_of, List.flatMap_append, List.flatMap_singleton, hl]
    exact List.append_assoc ..
  | isNull e h =>
    rw [chars_isNull, head, tails, List.flatMap_append, List.flatMap_singleton, h]
    exact List.append_assoc ..

end

/-! ## expressions that are grouped to the left -/

/-- no operand behind a sign is a comparison -/
def isGrouped : Expr → Bool
  | .column _ _ => true
  | .text _ => true
  | .raw _ => true
  | .eq l r => l.isGrouped && r.isGrouped && !r.isComparison
  | .ne l r => l.isGrouped && r.isGrouped && !r.isComparison
  | .isNull e => e.isGrouped
  | .or l r => l.isGrouped && r.isGrouped
  | .lower e => e.isGrouped
  | .castText e => e.isGrouped

theorem isGrouped_of (s : Sign) (l r : Expr) :
    (s.of l r).isGrouped = (l.isGrouped && r.isGrouped && !r.isComparison) := by
  cases s <;> rfl

theorem isGrouped_onFirst (s : Sign) {l r : Expr} (hl : l.isGrouped = true)
    (hr : r.isGrouped = true) : (s.onFirst l r).isGrouped = true := by
  have hplain : ∀ {e : Expr}, e.isComparison = false → e.isGrouped = true →
      (s.of l e).isGrouped = true := by
    intro e hc he
    rw [isGrouped_of, hl, he, hc]
    rfl
  induction r using signs_induction with
  | compared t x y hx _ =>
    simp only [isGrouped_of, Bool.and_eq_true] at hr
    rw [onFirst_of, isGrouped_of, hx hr.1.1, hr.1.2, hr.2]
    rfl
  | isNull x hx => exact hx hr
  | column | text | raw | or | lower | castText => exact hplain rfl hr

theorem isGrouped_grouped (e : Expr) : e.grouped.isGrouped = true := by
  induction e using signs_induction with
  | column | text | raw => rfl
  | compared s l r hl hr =>
    rw [grouped_of]
    exact isGrouped_onFirst s hl hr
  | isNull e h | lower e h | castText e h => exact h
  | or l r hl hr =>
    rw [grouped, isGrouped, hl, hr]
    rfl

structure Ready (n : Nat) (e : Expr) : Prop where
  isGrouped : e.isGrouped = true
  noRaw : e.hasRaw = false
  levels : e.levels ≤ n

namespace Ready
variable {n : Nat} {e : Expr}

theorem sides {s : Sign} {l r : Expr} (h : Ready n (s.of l r)) :
    Ready n l ∧ Ready n r ∧ r.isComparison = false := by
  obtain ⟨hg, hr, hl⟩ := h
  simp only [isGrouped_of, Bool.and_eq_true, Bool.not_eq_true'] at hg
  simp only [hasRaw_of, Bool.or_eq_false_iff] at hr
  rw [levels_of] at hl
  exact ⟨⟨hg.1.1, hr.1, by omega⟩, ⟨hg.1.2, hr.2, by omega⟩, hg.2⟩

theorem head (h : Ready n e) : Ready n e.head := by
  induction e using signs_induction with
  | column | text | raw | or | lower | castText => exact h
  | compared s l r hl _ =>
    rw [head_of]
    exact hl h.sides.1
  | isNull e ih => exact ih ⟨h.isGrouped, h.noRaw, h.levels⟩

theorem operand {s : Sign} {o : Expr} (h : Ready n e) (ho : .compared s o ∈ e.tails) :
    Ready n o ∧ o.isComparison = false := by
  induction e using signs_induction with
  | column | text | raw | or | lower | castText => cases ho
  | compared t l r hl _ =>
    rw [tails_of, List.mem_append, List.mem_singleton] at ho
    rcases ho with ho | ho
    · exact hl h.sides.1 ho
    · cases ho
      exact h.sides.2
  | isNull e ih =>
    rw [tails, List.mem_append, List.mem_singleton] at ho
    rcases ho with ho | ho
    · exact ih ⟨h.isGrouped, h.noRaw, h.levels⟩ ho
    · cases ho

theorem enclosed {i : Expr} (h : Ready (n + 1) e) (hi : i ∈ e.enclosed) : Ready n i := by
  have hg : i.isGrouped = true :=
    of_mem_enclosed (fun _ _ => rfl) (fun _ => rfl) (fun _ => rfl) h.isGrouped hi
  have he : (!e.hasRaw) = true := by
    rw [h.noRaw]
    rfl
  have hr : (!i.hasRaw) = true := of_mem_enclosed (p := fun e => !e.hasRaw)
    (fun _ _ => Bool.not_or ..) (fun _ => rfl) (fun _ => rfl) he hi
  have hl : i.levels < e.levels := levels_of_mem_enclosed hi
  have hn := h.levels
  rw [Bool.not_eq_true'] at hr
  exact ⟨hg, hr, by omega⟩

end Ready

/-! ## the reader -/

def readTail (operand : Reader Expr) : Reader Tail := fun cs =>
  match after? Sign.eq.text.toList cs with
  | some cs => (operand cs).map fun (o, cs) => (.compared .eq o, cs)
  | none =>
    match after? Sign.ne.text.toList cs with
    | some cs => (operand cs).map fun (o, cs) => (.compared .ne o, cs)
    | none => (after? " IS NULL".toList cs).map fun cs => (.isNull, cs)

def readRow (operand : Reader Expr) : Reader Expr := fun cs =>
  (operand cs).map fun (first, cs) =>
    let row := many (readTail operand) cs
    (row.1.foldl Tail.on first, row.2)

def readRowOperandWithin (d : Dialect) : (levels : Nat) → Reader Expr
  | 0 => fun _ => none
  | levels + 1 => readOperand d (readRow (readRowOperandWithin d levels))

def readGrouped (d : Dialect) : Reader Expr := fun cs =>
  readRow (readRowOperandWithin d cs.length) cs

/-! ## the law -/

variable {d : Dialect}

theorem reads_tail {operand : Reader Expr} {t : Tail}
    (ho : ∀ s o, t = .compared s o → Reads operand Unquoted (o.chars d) o) :
    Reads (readTail operand) Unquoted (t.chars d) t := by
  intro rest h
  cases t with
  | compared s o =>
    have hr : operand (o.chars d ++ rest) = some (o, rest) := ho s o rfl rest h
    show readTail operand (s.text.toList ++ o.chars d ++ rest) = _
    rw [List.append_assoc, readTail]
    cases s with
    | eq =>
      rw [after?_append]
      dsimp only
      rw [hr]
      rfl
    | ne =>
      have heq : after? Sign.eq.text.toList (Sign.ne.text.toList ++ (o.chars d ++ rest)) = none :=
        rfl
      rw [heq, after?_append]
      dsimp only
      rw [hr]
      rfl
  | isNull => rfl

theorem chars_tail_eq_cons (d : Dialect) (t : Tail) : ∃ cs, t.chars d = ' ' :: cs := by
  match t with
  | .compared .eq o => exact ⟨"= ".toList ++ o.chars d, rfl⟩
  | .compared .ne o => exact ⟨"<> ".toList ++ o.chars d, rfl⟩
  | .isNull => exact ⟨"IS NULL".toList, rfl⟩

theorem unquoted_tail (t : Tail) (rest : List Char) : Unquoted (t.chars d ++ rest) := by
  obtain ⟨cs, ht⟩ := chars_tail_eq_cons d t
  rw [ht]
  exact unquoted_cons (by decide) _

theorem unquoted_tails (ts : List Tail) {rest : List Char} (h : Unquoted rest) :
    Unquoted (ts.flatMap (Tail.chars d) ++ rest) := by
  cases ts with
  | nil => exact h
  | cons t ts =>
    rw [List.flatMap_cons, List.append_assoc]
    exact unquoted_tail t _

theorem reads_row {operand : Reader Expr} {e : Expr}
    (hh : Reads operand Unquoted (e.head.chars d) e.head)
    (ho : ∀ s o, .compared s o ∈ e.tails → Reads operand Unquoted (o.chars d) o) :
    Reads (readRow operand) Closed (e.chars d) e := by
  intro rest h
  have hread : ∀ t ∈ e.tails, Reads (readTail operand) Unquoted (t.chars d) t := by
    intro t ht
    apply reads_tail
    rintro s o rfl
    exact ho s o ht
  have hne : ∀ t ∈ e.tails, t.chars d ≠ [] := by
    intro t _ hnil
    obtain ⟨cs, ht⟩ := chars_tail_eq_cons d t
    rw [ht] at hnil
    cases hnil
  have hstop : readTail operand rest = none := by
    have heq : after? Sign.eq.text.toList rest = none := h.eq
    have hne : after? Sign.ne.text.toList rest = none := h.ne
    rw [readTail, heq, hne, h.isNull]
    rfl
  have hmany : many (readTail operand) (e.tails.flatMap (Tail.chars d) ++ rest) = (e.tails, rest) :=
    many_flatMap hread (fun t _ => unquoted_tail t) hne h.unquoted hstop
  have hfollow : Unquoted (e.tails.flatMap (Tail.chars d) ++ rest) :=
    unquoted_tails e.tails h.unquoted
  have hfirst := hh _ hfollow
  rw [chars_tails, List.append_assoc, readRow, hfirst]
  show some ((many (readTail operand) (e.tails.flatMap (Tail.chars d) ++ rest)).1.foldl Tail.on
    e.head, (many (readTail operand) (e.tails.flatMap (Tail.chars d) ++ rest)).2) = some (e, rest)
  rw [hmany, foldl_tails]

theorem reads_rowOperandWithin {n : Nat} {e : Expr} (he : Ready n e)
    (hc : e.isComparison = false) :
    Reads (readRowOperandWithin d n) Unquoted (e.chars d) e := by
  -- the induction is on the levels; the rows in parentheses have one less
  induction n generalizing e with
  | zero =>
    have hp := levels_pos e
    have hl := he.levels
    omega
  | succ n ih =>
    apply reads_operand hc
    · rintro s rfl
      cases he.noRaw
    · intro i hi
      have hr : Ready n i := he.enclosed hi
      apply reads_row
      · exact ih hr.head (isComparison_head i)
      · intro s o ho
        obtain ⟨hro, hco⟩ := hr.operand ho
        exact ih hro hco

theorem chars_grouped (d : Dialect) (e : Expr) : e.grouped.chars d = e.chars d := by
  rw [chars, (regrouped_grouped e).toSql_eq d]
  rfl

/-- **From its SQL an expression without SQL from outside is read back, grouped to the left.** -/
theorem reads_grouped {e : Expr} (he : e.hasRaw = false) :
    Reads (readGrouped d) Closed (e.chars d) e.grouped := by
  intro rest h
  have hl : e.grouped.levels ≤ (e.chars d ++ rest).length := by
    have hle := levels_le_length d e.grouped
    rw [chars_grouped] at hle
    rw [List.length_append]
    omega
  have hr : Ready (e.chars d ++ rest).length e.grouped :=
    ⟨isGrouped_grouped e, (regrouped_grouped e).hasRaw_eq.trans he, hl⟩
  have hrow := reads_row (reads_rowOperandWithin (d := d) hr.head (isComparison_head _))
    (fun s o ho => reads_rowOperandWithin (hr.operand ho).1 (hr.operand ho).2) rest h
  rw [chars_grouped] at hrow
  exact hrow

theorem grouped_eq_of_toSql_eq {x y : Expr} (hx : x.hasRaw = false) (hy : y.hasRaw = false)
    (h : x.toSql d = y.toSql d) : x.grouped = y.grouped := by
  have hc : x.chars d = y.chars d := congrArg String.toList h
  have hrx := reads_grouped (d := d) hx [] closed_nil
  have hry := reads_grouped (d := d) hy [] closed_nil
  rw [hc, hry] at hrx
  exact (congrArg Prod.fst (Option.some.inj hrx)).symm

/-- **The SQL of an expression tells all but the order of comparisons in a row**: expressions
without SQL from outside have the same SQL exactly when they are grouped differently at most, so an
expression is known by its SQL exactly when it has one grouping only. -/
theorem toSql_eq_iff_regrouped (d : Dialect) {x : Expr} (hx : x.hasRaw = false) :
    (∀ y : Expr, y.hasRaw = false → (y.toSql d = x.toSql d ↔ Regrouped y x)) ∧
      ((∀ y : Expr, y.hasRaw = false → y.toSql d = x.toSql d → y = x) ↔ x.isSeparate = true) := by
  have hiff : ∀ y : Expr, y.hasRaw = false → (y.toSql d = x.toSql d ↔ Regrouped y x) := by
    intro y hy
    constructor
    · intro h
      have hg : y.grouped = x.grouped := grouped_eq_of_toSql_eq hy hx h
      have hyx : Regrouped y.grouped x := by
        rw [hg]
        exact regrouped_grouped x
      exact (regrouped_grouped y).symm.trans hyx
    · intro h
      exact h.toSql_eq d
  refine ⟨hiff, ?_⟩
  rw [isSeparate_iff_forall_regrouped]
  constructor
  · intro h y hy
    have hr : y.hasRaw = false := hy.hasRaw_eq.trans hx
    exact h y hr ((hiff y hr).mpr hy)
  · intro h y hy hs
    exact h y ((hiff y hy).mp hs)

/-- `IS NULL` in front of a sign or of another one, and comparisons in parentheses, are told apart;
`IS NULL` on the right of a sign is not -/
theorem toSql_eq_iff_regrouped_missing_columns :
    let a := column "t" "a"
    let b := column "t" "b"
    let separate := ne (isNull (isNull a)) (or (isNull b) (eq a (text "' IS NULL")))
    let ambiguous := ne (isNull a) (isNull b)
    separate.hasRaw = false ∧ ambiguous.hasRaw = false ∧
      (∀ y : Expr, y.hasRaw = false → y.toSql .postgres = separate.toSql .postgres →
        y = separate) ∧
      (isNull (ne (isNull a) b)).Regrouped ambiguous := by
  intro a b separate ambiguous
  have hs : separate.hasRaw = false := by decide
  have ha : ambiguous.hasRaw = false := by decide
  refine ⟨hs, ha, (toSql_eq_iff_regrouped .postgres hs).2.mpr (by decide), ?_⟩
  exact ((toSql_eq_iff_regrouped .sqlite ha).1 _ (by decide)).mp (by decide +kernel)

/-- two conditions with one SQL and not one truth: the first says that exactly one of two columns is
NULL, and it holds of a row that lacks the column `a` only; the other one has no value there, as it
compares a truth value with a text -/
theorem not_toSql_injective_missing_columns :
    let a := column "t" "a"
    let b := column "t" "b"
    let x := ne (isNull a) (isNull b)
    let y := isNull (ne (isNull a) b)
    x.hasRaw = false ∧ y.hasRaw = false ∧ x ≠ y ∧ (∀ d, x.toSql d = y.toSql d) ∧
      ∃ scope : Scope, ∀ E : Engine,
        E.holds scope x = .ok true ∧ E.holds scope y = .error .mixedKinds := by
  intro a b x y
  refine ⟨by decide, by decide, by decide, ?_, ?_⟩
  · intro d
    have h : Regrouped y x := .signNull .ne (isNull a) b
    exact (h.toSql_eq d).symm
  · let row : Row := fun column => if column = "b" then some "v" else none
    exact ⟨[("t", row)], fun E => ⟨rfl, rfl⟩⟩

end StagedLoad.Expr
