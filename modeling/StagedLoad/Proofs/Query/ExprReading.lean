import StagedLoad.Proofs.Text.Reading
import StagedLoad.Query.Expr

/-!
# Reading expressions back from their SQL

A comparison is written without parentheses, so its end is shown by what follows only, and a
comparison of comparisons does not show which operand belongs to which.  All other expressions
have their own beginning and end.  Where no comparison is an operand of another one, and no SQL
comes from outside (`Expr.isReadable`), an expression is read back from its SQL (`Expr.reads`),
whatever characters are in its names and texts.
-/

namespace StagedLoad.Expr

open Text

/-! ## readable expressions -/

def isComparison : Expr → Bool
  | .eq _ _ | .ne _ _ | .isNull _ => true
  | _ => false

/-- the expression has no SQL from outside, and no comparison as an operand of a comparison -/
def isReadable : Expr → Bool
  | .column _ _ => true
  | .text _ => true
  | .raw _ => false
  | .eq l r => !l.isComparison && !r.isComparison && l.isReadable && r.isReadable
  | .ne l r => !l.isComparison && !r.isComparison && l.isReadable && r.isReadable
  | .isNull e => !e.isComparison && e.isReadable
  | .or l r => l.isReadable && r.isReadable
  | .lower e => e.isReadable
  | .castText e => e.isReadable

/-- what stands between the signs of a comparison; an expression that is none is its own operand -/
def operands : Expr → List Expr
  | .eq l r => [l, r]
  | .ne l r => [l, r]
  | .isNull e => [e]
  | e => [e]

/-- what stands between the parentheses of an expression that is no comparison -/
def enclosed : Expr → List Expr
  | .or l r => [l, r]
  | .lower e => [e]
  | .castText e => [e]
  | _ => []

/-- how deep parentheses are nested, and one more -/
def levels : Expr → Nat
  | .column _ _ => 1
  | .text _ => 1
  | .raw _ => 1
  | .eq l r => max l.levels r.levels
  | .ne l r => max l.levels r.levels
  | .isNull e => e.levels
  | .or l r => max l.levels r.levels + 1
  | .lower e => e.levels + 1
  | .castText e => e.levels + 1

theorem levels_pos (e : Expr) : 0 < e.levels := by
  induction e with
  | column | text | raw | or | lower | castText => simp [levels]
  | eq l r hl hr | ne l r hl hr =>
    rw [levels]
    omega
  | isNull e h => exact h

theorem operands_of_not_isComparison {e : Expr} (h : e.isComparison = false) :
    e.operands = [e] := by
  cases e with
  | eq | ne | isNull => cases h
  | column | text | raw | or | lower | castText => rfl

theorem of_mem_pair {l r o : Expr}
    (h : (!l.isComparison && !r.isComparison && l.isReadable && r.isReadable) = true)
    (ho : o ∈ [l, r]) :
    o.isReadable = true ∧ o.isComparison = false ∧ o.levels ≤ max l.levels r.levels := by
  simp only [Bool.and_eq_true, Bool.not_eq_true'] at h
  obtain ⟨⟨⟨hl, hr⟩, hl'⟩, hr'⟩ := h
  rcases List.mem_cons.mp ho with rfl | ho
  · exact ⟨hl', hl, Nat.le_max_left _ _⟩
  · obtain rfl := List.mem_singleton.mp ho
    exact ⟨hr', hr, Nat.le_max_right _ _⟩

theorem of_mem_operands {e o : Expr} (he : e.isReadable = true) (ho : o ∈ e.operands) :
    o.isReadable = true ∧ o.isComparison = false ∧ o.levels ≤ e.levels := by
  by_cases hc : e.isComparison = true
  · cases e with
    | eq l r => exact of_mem_pair he ho
    | ne l r => exact of_mem_pair he ho
    | isNull e =>
      simp only [isReadable, Bool.and_eq_true, Bool.not_eq_true'] at he
      obtain rfl := List.mem_singleton.mp ho
      exact ⟨he.2, he.1, Nat.le_refl _⟩
    | column | text | raw | or | lower | castText => cases hc
  · rw [Bool.not_eq_true] at hc
    rw [operands_of_not_isComparison hc, List.mem_singleton] at ho
    rw [ho]
    exact ⟨he, hc, Nat.le_refl _⟩

theorem levels_of_mem_enclosed {e i : Expr} (hi : i ∈ e.enclosed) : i.levels < e.levels := by
  cases e with
  | or l r =>
    rw [levels]
    rcases List.mem_cons.mp hi with rfl | hi
    · omega
    · obtain rfl := List.mem_singleton.mp hi
      omega
  | lower e | castText e =>
    obtain rfl := List.mem_singleton.mp hi
    exact Nat.lt_succ_self _
  | column | text | raw | eq | ne | isNull => cases hi

theorem of_mem_enclosed {p : Expr → Bool} (hor : ∀ l r, p (or l r) = (p l && p r))
    (hlower : ∀ e, p (lower e) = p e) (hcast : ∀ e, p (castText e) = p e) {e i : Expr}
    (he : p e = true) (hi : i ∈ e.enclosed) : p i = true := by
  cases e with
  | or l r =>
    rw [hor, Bool.and_eq_true] at he
    rcases List.mem_cons.mp hi with rfl | hi
    · exact he.1
    · obtain rfl := List.mem_singleton.mp hi
      exact he.2
  | lower e =>
    obtain rfl := List.mem_singleton.mp hi
    rwa [← hlower]
  | castText e =>
    obtain rfl := List.mem_singleton.mp hi
    rwa [← hcast]
  | column | text | raw | eq | ne | isNull => cases hi

/-! ## the written form -/

def chars (d : Dialect) (e : Expr) : List Char := (e.toSql d).toList

section
variable (d : Dialect)

theorem chars_column (q c : String) :
    (column q c).chars d = quotedChars '"' q.toList ++ ("." : String).toList ++
      quotedChars '"' c.toList := by
  show (d.quoteName q ++ "." ++ d.quoteName c).toList = _
  simp only [String.toList_append, Dialect.toList_quoteName]

theorem chars_text (v : String) : (text v).chars d = quotedChars '\'' v.toList :=
  Dialect.toList_quoteText d v

theorem chars_eq (l r : Expr) :
    (eq l r).chars d = l.chars d ++ " = ".toList ++ r.chars d := by
  show (l.toSql d ++ " = " ++ r.toSql d).toList = _
  rw [String.toList_append, String.toList_append]
  rfl

theorem chars_ne (l r : Expr) :
    (ne l r).chars d = l.chars d ++ " <> ".toList ++ r.chars d := by
  show (l.toSql d ++ " <> " ++ r.toSql d).toList = _
  rw [String.toList_append, String.toList_append]
  rfl

theorem chars_isNull (e : Expr) : (isNull e).chars d = e.chars d ++ " IS NULL".toList :=
  String.toList_append

theorem chars_or (l r : Expr) : (or l r).chars d =
    "(".toList ++ l.chars d ++ " OR ".toList ++ r.chars d ++ ")".toList := by
  show ("(" ++ l.toSql d ++ " OR " ++ r.toSql d ++ ")").toList = _
  simp only [String.toList_append]
  rfl

theorem chars_lower (e : Expr) :
    (lower e).chars d = "LOWER(".toList ++ e.chars d ++ ")".toList := by
  show ("LOWER(" ++ e.toSql d ++ ")").toList = _
  rw [String.toList_append, String.toList_append]
  rfl

theorem chars_castText (e : Expr) : (castText e).chars d =
    "CAST(".toList ++ e.chars d ++ (" AS " ++ d.textType ++ ")").toList := by
  show ("CAST(" ++ e.toSql d ++ " AS " ++ d.textType ++ ")").toList = _
  simp only [String.toList_append, List.append_assoc]
  rfl

theorem levels_le_length (e : Expr) : e.levels ≤ (e.chars d).length := by
  induction e with
  | column q c =>
    rw [chars_column, quotedChars]
    simp [levels]
  | text v =>
    rw [chars_text, quotedChars]
    simp [levels]
  | raw s =>
    simp [chars, toSql, levels]
  | eq l r hl hr =>
    rw [chars_eq, List.length_append, List.length_append, levels]
    omega
  | ne l r hl hr =>
    rw [chars_ne, List.length_append, List.length_append, levels]
    omega
  | isNull e h =>
    rw [chars_isNull, List.length_append, levels]
    omega
  | or l r hl hr =>
    rw [chars_or, levels]
    simp only [List.length_append]
    have hp : "(".toList.length = 1 := rfl
    omega
  | lower e h =>
    rw [chars_lower, levels]
    simp only [List.length_append]
    have hp : "LOWER(".toList.length = 6 := rfl
    omega
  | castText e h =>
    rw [chars_castText, levels]
    simp only [List.length_append]
    have hp : "CAST(".toList.length = 5 := rfl
    omega

/-! ## the reader -/

def readName : Reader String := quotedText '"'

def readColumn : Reader Expr := fun cs => do
  let (q, cs) ← readName cs
  let cs ← after? ".".toList cs
  let (c, cs) ← readName cs
  return (.column q c, cs)

def readText : Reader Expr := fun cs => (quotedText '\'' cs).map fun (v, cs) => (.text v, cs)

def readCall (inner : Reader Expr) (opening closing : List Char) (make : Expr → Expr) :
    Reader Expr := fun cs => do
  let cs ← after? opening cs
  let (e, cs) ← inner cs
  let cs ← after? closing cs
  return (make e, cs)

def readOr (inner : Reader Expr) : Reader Expr := fun cs => do
  let cs ← after? "(".toList cs
  let (l, cs) ← inner cs
  let cs ← after? " OR ".toList cs
  let (r, cs) ← inner cs
  let cs ← after? ")".toList cs
  return (.or l r, cs)

/-- an expression that is no comparison; it is told by its first character -/
def readOperand (inner : Reader Expr) : Reader Expr
  | '"' :: cs => readColumn ('"' :: cs)
  | '\'' :: cs => readText ('\'' :: cs)
  | '(' :: cs => readOr inner ('(' :: cs)
  | 'L' :: cs => readCall inner "LOWER(".toList ")".toList .lower ('L' :: cs)
  | 'C' :: cs =>
    readCall inner "CAST(".toList (" AS " ++ d.textType ++ ")").toList .castText ('C' :: cs)
  | _ => none

def readComparison (operand : Reader Expr) : Reader Expr := fun cs => do
  let (l, cs) ← operand cs
  match after? " = ".toList cs with
  | some cs => (operand cs).map fun (r, cs) => (.eq l r, cs)
  | none =>
    match after? " <> ".toList cs with
    | some cs => (operand cs).map fun (r, cs) => (.ne l r, cs)
    | none =>
      match after? " IS NULL".toList cs with
      | some cs => some (.isNull l, cs)
      | none => some (l, cs)

def readOperandWithin : (levels : Nat) → Reader Expr
  | 0 => fun _ => none
  | levels + 1 => readOperand d (readComparison (readOperandWithin levels))

def read : Reader Expr := fun cs => readComparison (readOperandWithin d cs.length) cs

end

/-! ## the law -/

def Unquoted (rest : List Char) : Prop := ∀ q ∈ ['"', '\''], ∀ r, rest ≠ q :: r

/-- the text does not go on with a quote or the sign of a comparison -/
structure Closed (rest : List Char) : Prop where
  unquoted : Unquoted rest
  eq : after? " = ".toList rest = none
  ne : after? " <> ".toList rest = none
  isNull : after? " IS NULL".toList rest = none

theorem unquoted_cons {c : Char} (h : c ∉ ['"', '\'']) (rest : List Char) :
    Unquoted (c :: rest) := by
  intro q hq r he
  cases he
  exact h hq

theorem closed_cons {c : Char} (h : c ∉ ['"', '\'', ' ']) (rest : List Char) :
    Closed (c :: rest) := by
  have hc : ' ' ≠ c := fun e => h (by simp [← e])
  refine ⟨unquoted_cons (fun hm => h ?_) rest, after?_cons_of_ne hc .., after?_cons_of_ne hc ..,
    after?_cons_of_ne hc ..⟩
  rcases List.mem_cons.mp hm with rfl | hm
  · simp
  · rw [List.mem_singleton.mp hm]
    simp

theorem closed_nil : Closed [] := by
  refine ⟨?_, rfl, rfl, rfl⟩
  intro q _ r h
  cases h

theorem closed_or (rest : List Char) : Closed (" OR ".toList ++ rest) :=
  ⟨unquoted_cons (by decide) _, rfl, rfl, rfl⟩

theorem closed_as (rest : List Char) : Closed (" AS ".toList ++ rest) :=
  ⟨unquoted_cons (by decide) _, rfl, rfl, rfl⟩

theorem closed_and (rest : List Char) : Closed (" AND ".toList ++ rest) :=
  ⟨unquoted_cons (by decide) _, rfl, rfl, rfl⟩

variable {d : Dialect}

theorem reads_name (s : String) : Reads readName Unquoted (quotedChars '"' s.toList) s := by
  intro rest h
  exact reads_quotedText '"' s rest (h '"' (by simp))

theorem reads_column (q c : String) :
    Reads readColumn Unquoted ((column q c).chars d) (.column q c) := by
  intro rest h
  have hdot : Unquoted (".".toList ++ (quotedChars '"' c.toList ++ rest)) :=
    unquoted_cons (by decide) _
  rw [chars_column, List.append_assoc, List.append_assoc, readColumn, reads_name q _ hdot]
  simp only [Option.bind_eq_bind, Option.bind_some, after?_append]
  rw [reads_name c _ h]
  rfl

theorem reads_text (v : String) : Reads readText Unquoted ((text v).chars d) (.text v) := by
  intro rest h
  have hr : quotedText '\'' (quotedChars '\'' v.toList ++ rest) = some (v, rest) :=
    reads_quotedText '\'' v rest (h '\'' (by simp))
  rw [chars_text, readText, hr]
  rfl

theorem reads_call {inner : Reader Expr} {e : Expr} (he : Reads inner Closed (e.chars d) e)
    (opening : List Char) {closing : List Char} (hc : ∀ r, Closed (closing ++ r))
    (make : Expr → Expr) :
    Reads (readCall inner opening closing make) Unquoted (opening ++ e.chars d ++ closing)
      (make e) := by
  intro rest _
  have hr : inner (e.chars d ++ (closing ++ rest)) = some (e, closing ++ rest) := he _ (hc rest)
  rw [List.append_assoc, List.append_assoc, readCall, after?_append]
  simp only [Option.bind_eq_bind, Option.bind_some]
  rw [hr]
  simp only [Option.bind_some, after?_append]
  rfl

theorem reads_or {inner : Reader Expr} {l r : Expr} (hl : Reads inner Closed (l.chars d) l)
    (hr : Reads inner Closed (r.chars d) r) :
    Reads (readOr inner) Unquoted ((or l r).chars d) (.or l r) := by
  intro rest _
  have hleft := hl _ (closed_or (r.chars d ++ (")".toList ++ rest)))
  have hright := hr (")".toList ++ rest) (closed_cons (by decide) rest)
  rw [chars_or]
  simp only [List.append_assoc]
  rw [readOr, after?_append]
  simp only [Option.bind_eq_bind, Option.bind_some]
  rw [hleft]
  simp only [Option.bind_some, after?_append]
  rw [hright]
  simp only [Option.bind_some, after?_append]
  rfl

theorem reads_comparison {operand : Reader Expr} {e : Expr}
    (ho : ∀ o ∈ e.operands, Reads operand Unquoted (o.chars d) o) :
    Reads (readComparison operand) Closed (e.chars d) e := by
  intro rest h
  by_cases hc : e.isComparison = true
  · cases e with
    | eq l r =>
      have hl : Reads operand Unquoted (l.chars d) l := ho l (by simp [operands])
      have hr : Reads operand Unquoted (r.chars d) r := ho r (by simp [operands])
      have hleft := hl (" = ".toList ++ (r.chars d ++ rest)) (unquoted_cons (by decide) _)
      rw [chars_eq, List.append_assoc, List.append_assoc, readComparison, hleft]
      simp only [Option.bind_eq_bind, Option.bind_some, after?_append]
      rw [hr rest h.unquoted]
      rfl
    | ne l r =>
      have hl : Reads operand Unquoted (l.chars d) l := ho l (by simp [operands])
      have hr : Reads operand Unquoted (r.chars d) r := ho r (by simp [operands])
      have hleft := hl (" <> ".toList ++ (r.chars d ++ rest)) (unquoted_cons (by decide) _)
      have heq : after? " = ".toList (" <> ".toList ++ (r.chars d ++ rest)) = none := rfl
      rw [chars_ne, List.append_assoc, List.append_assoc, readComparison, hleft]
      simp only [Option.bind_eq_bind, Option.bind_some, heq, after?_append]
      rw [hr rest h.unquoted]
      rfl
    | isNull e =>
      have he : Reads operand Unquoted (e.chars d) e := ho e (by simp [operands])
      have hleft := he (" IS NULL".toList ++ rest) (unquoted_cons (by decide) _)
      have heq : after? " = ".toList (" IS NULL".toList ++ rest) = none := rfl
      have hne : after? " <> ".toList (" IS NULL".toList ++ rest) = none := rfl
      rw [chars_isNull, List.append_assoc, readComparison, hleft]
      simp only [Option.bind_eq_bind, Option.bind_some, heq, hne, after?_append]
    | column | text | raw | or | lower | castText => cases hc
  · rw [Bool.not_eq_true] at hc
    have he : Reads operand Unquoted (e.chars d) e :=
      ho e (by simp [operands_of_not_isComparison hc])
    rw [readComparison, he rest h.unquoted]
    simp only [Option.bind_eq_bind, Option.bind_some, h.eq, h.ne, h.isNull]

theorem reads_operand {inner : Reader Expr} {e : Expr} (hc : e.isComparison = false)
    (hr : ∀ s, e ≠ raw s) (hi : ∀ i ∈ e.enclosed, Reads inner Closed (i.chars d) i) :
    Reads (readOperand d inner) Unquoted (e.chars d) e := by
  intro rest h
  cases e with
  | column q c =>
    have hq := reads_column (d := d) q c rest h
    rw [chars_column, quotedChars] at hq ⊢
    exact hq
  | text v =>
    have hq := reads_text (d := d) v rest h
    rw [chars_text, quotedChars] at hq ⊢
    exact hq
  | or l r =>
    have hl : Reads inner Closed (l.chars d) l := hi l (by simp [enclosed])
    have hr : Reads inner Closed (r.chars d) r := hi r (by simp [enclosed])
    have ho := reads_or hl hr rest h
    rw [chars_or] at ho ⊢
    exact ho
  | lower e =>
    have he : Reads inner Closed (e.chars d) e := hi e (by simp [enclosed])
    have hclosing : ∀ r, Closed (")".toList ++ r) := fun r => closed_cons (by decide) r
    rw [chars_lower]
    exact reads_call he "LOWER(".toList hclosing lower rest h
  | castText e =>
    have he : Reads inner Closed (e.chars d) e := hi e (by simp [enclosed])
    have hclosing : ∀ r, Closed ((" AS " ++ d.textType ++ ")").toList ++ r) := by
      intro r
      rw [String.toList_append, String.toList_append, List.append_assoc, List.append_assoc]
      exact closed_as _
    rw [chars_castText]
    exact reads_call he "CAST(".toList hclosing castText rest h
  | raw s => exact absurd rfl (hr s)
  | eq | ne | isNull => cases hc

theorem reads_operandWithin {n : Nat} {e : Expr} (he : e.isReadable = true)
    (hc : e.isComparison = false) (hn : e.levels ≤ n) :
    Reads (readOperandWithin d n) Unquoted (e.chars d) e := by
  -- the induction is on the levels; what is in parentheses has one less
  induction n generalizing e with
  | zero =>
    have hp := levels_pos e
    omega
  | succ n ih =>
    apply reads_operand hc
    · rintro s rfl
      cases he
    · intro i hi
      have hl : i.levels < e.levels := levels_of_mem_enclosed hi
      have hr : i.isReadable = true :=
        of_mem_enclosed (fun _ _ => rfl) (fun _ => rfl) (fun _ => rfl) he hi
      refine reads_comparison fun o ho => ?_
      obtain ⟨hor, hoc, hol⟩ := of_mem_operands hr ho
      exact ih hor hoc (by omega)

/-- **An expression without SQL from outside and without comparisons of comparisons is read back
from its SQL.** -/
theorem reads {e : Expr} (he : e.isReadable = true) : Reads (read d) Closed (e.chars d) e := by
  intro rest h
  refine reads_comparison (fun o ho => ?_) rest h
  obtain ⟨hr, hc, hl⟩ := of_mem_operands he ho
  have hlen : e.levels ≤ (e.chars d ++ rest).length := by
    have hle := levels_le_length d e
    rw [List.length_append]
    omega
  exact reads_operandWithin hr hc (Nat.le_trans hl hlen)

end StagedLoad.Expr
