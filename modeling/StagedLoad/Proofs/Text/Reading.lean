import StagedLoad.Text.Quoted

/-!
# Reading back what was written

A reader takes a value off the head of a text and leaves what follows.  It `Reads` a value from
the text written for it when it does so in front of everything that may follow: a written form
need not show its own end, so what may follow is part of the law.

Readers are put together from words (`after?`), quoted texts (`quotedText`), repetitions (`many`)
and separated lists (`separated`, and `listed` where they may be empty), and so are their laws
(`reads_quotedText`, `many_flatMap`, `reads_separated`, `reads_listed`).
-/

namespace StagedLoad.Text

/-- the value at the head of a text, and what follows it -/
abbrev Reader (α : Type) := List Char → Option (α × List Char)

/-- in front of all that may follow, the value is read from what is written for it -/
def Reads {α : Type} (read : Reader α) (follows : List Char → Prop) (written : List Char)
    (a : α) : Prop :=
  ∀ rest, follows rest → read (written ++ rest) = some (a, rest)

/-! ## words -/

def after? : (word : List Char) → List Char → Option (List Char)
  | [], cs => some cs
  | _ :: _, [] => none
  | w :: ws, c :: cs => if w = c then after? ws cs else none

@[simp] theorem after?_append (word rest : List Char) : after? word (word ++ rest) = some rest := by
  induction word with
  | nil => rfl
  | cons w ws ih => simp [after?, ih]

theorem after?_cons_of_ne {w c : Char} (h : w ≠ c) (ws cs : List Char) :
    after? (w :: ws) (c :: cs) = none := if_neg h

/-! ## quoted texts -/

def quotedText (q : Char) : Reader String := fun cs =>
  (readQuoted q cs).map fun (text, rest) => (String.ofList text, rest)

theorem reads_quotedText (q : Char) (s : String) :
    Reads (quotedText q) (fun rest => ∀ r, rest ≠ q :: r) (quotedChars q s.toList) s := by
  intro rest h
  have hr : readQuoted q (quotedChars q s.toList ++ rest) = some (s.toList, rest) := by
    rw [← toList_quoted]
    exact readQuoted_quoted_append q s h
  rw [quotedText, hr]
  simp

/-! ## repetitions -/

section
variable {α : Type}

def manyWithin (item : Reader α) : (most : Nat) → List Char → List α × List Char
  | 0, cs => ([], cs)
  | most + 1, cs =>
    match item cs with
    | none => ([], cs)
    | some (a, cs) =>
      let (as, rest) := manyWithin item most cs
      (a :: as, rest)

/-- the values at the head of a text, up to the first place where none is found; no more can be
there than there are characters -/
def many (item : Reader α) (cs : List Char) : List α × List Char := manyWithin item cs.length cs

variable {item : Reader α} {follows : List Char → Prop} {written : α → List Char} {as : List α}
  {rest : List Char}

theorem manyWithin_flatMap (hi : ∀ a ∈ as, Reads item follows (written a) a)
    (hw : ∀ a ∈ as, ∀ r, follows (written a ++ r)) (hf : follows rest) (hs : item rest = none)
    {most : Nat} (hm : as.length ≤ most) :
    manyWithin item most (as.flatMap written ++ rest) = (as, rest) := by
  induction as generalizing most with
  | nil =>
    cases most with
    | zero => rfl
    | succ most =>
      show manyWithin item (most + 1) rest = _
      rw [manyWithin, hs]
  | cons a as ih =>
    rw [List.forall_mem_cons] at hi hw
    cases most with
    | zero => simp at hm
    | succ most =>
      -- behind the first value stands another one, or the rest
      have ha : follows (as.flatMap written ++ rest) := by
        cases as with
        | nil => exact hf
        | cons b bs =>
          rw [List.flatMap_cons, List.append_assoc]
          exact hw.2 b (List.mem_cons_self ..) _
      have hr : item (written a ++ (as.flatMap written ++ rest)) =
          some (a, as.flatMap written ++ rest) := hi.1 _ ha
      have hm' : as.length ≤ most := by
        rw [List.length_cons] at hm
        omega
      rw [List.flatMap_cons, List.append_assoc, manyWithin, hr]
      dsimp only
      rw [ih hi.2 hw.2 hm']

theorem length_le_flatMap (hw : ∀ a ∈ as, written a ≠ []) :
    as.length ≤ (as.flatMap written).length := by
  induction as with
  | nil => exact Nat.le_refl 0
  | cons a as ih =>
    rw [List.forall_mem_cons] at hw
    have ha : 0 < (written a).length := List.length_pos_iff.mpr hw.1
    have has := ih hw.2
    rw [List.flatMap_cons, List.length_append, List.length_cons]
    omega

theorem many_flatMap (hi : ∀ a ∈ as, Reads item follows (written a) a)
    (hw : ∀ a ∈ as, ∀ r, follows (written a ++ r)) (hn : ∀ a ∈ as, written a ≠ [])
    (hf : follows rest) (hs : item rest = none) :
    many item (as.flatMap written ++ rest) = (as, rest) := by
  have hm : as.length ≤ (as.flatMap written ++ rest).length := by
    have h := length_le_flatMap hn
    rw [List.length_append]
    omega
  exact manyWithin_flatMap hi hw hf hs hm

/-! ## separated lists -/

def behind (word : List Char) (item : Reader α) : Reader α := fun cs => (after? word cs).bind item

theorem behind_append (word : List Char) (item : Reader α) (cs : List Char) :
    behind word item (word ++ cs) = item cs := by
  rw [behind, after?_append]
  rfl

def separated (separator : List Char) (item : Reader α) : Reader (List α) := fun cs =>
  (item cs).map fun (a, cs) =>
    let more := many (behind separator item) cs
    (a :: more.1, more.2)

theorem intercalate_cons (separator l : List Char) (ls : List (List Char)) :
    separator.intercalate (l :: ls) = l ++ ls.flatMap (separator ++ ·) := by
  induction ls generalizing l with
  | nil => simp
  | cons m ls ih => simp [List.intercalate_cons_cons, ih, List.flatMap_cons]

theorem reads_separated {separator : List Char} (hi : ∀ a ∈ as, Reads item follows (written a) a)
    (hsep : separator ≠ []) (hf : ∀ r, follows (separator ++ r)) (hne : as ≠ []) :
    Reads (separated separator item) (fun rest => follows rest ∧ after? separator rest = none)
      (separator.intercalate (as.map written)) as := by
  intro rest ⟨hr, hs⟩
  cases as with
  | nil => exact absurd rfl hne
  | cons a as =>
    rw [List.forall_mem_cons] at hi
    let next : α → List Char := fun b => separator ++ written b
    have hb : ∀ b ∈ as, Reads (behind separator item) follows (next b) b := by
      intro b hb rest hr
      show behind separator item (separator ++ written b ++ rest) = _
      rw [List.append_assoc, behind_append]
      exact hi.2 b hb rest hr
    have hnext : ∀ b ∈ as, ∀ r, follows (next b ++ r) := by
      intro b _ r
      show follows (separator ++ written b ++ r)
      rw [List.append_assoc]
      exact hf _
    have hnone : behind separator item rest = none := by
      rw [behind, hs]
      rfl
    have hpos : ∀ b ∈ as, next b ≠ [] := fun b _ => List.append_ne_nil_of_left_ne_nil hsep _
    have hmany : many (behind separator item) (as.flatMap next ++ rest) = (as, rest) :=
      many_flatMap hb hnext hpos hr hnone
    have hfirst : follows (as.flatMap next ++ rest) := by
      cases as with
      | nil => exact hr
      | cons b bs =>
        rw [List.flatMap_cons, List.append_assoc]
        exact hnext b (List.mem_cons_self ..) _
    rw [List.map_cons, intercalate_cons, List.flatMap_map, List.append_assoc, separated,
      hi.1 _ hfirst, Option.map_some]
    show some (a :: (many (behind separator item) (as.flatMap next ++ rest)).1,
      (many (behind separator item) (as.flatMap next ++ rest)).2) = _
    rw [hmany]

/-- a separated list, or nothing where no item begins -/
def listed (separator : List Char) (item : Reader α) : Reader (List α) := fun cs =>
  some ((separated separator item cs).getD ([], cs))

theorem reads_listed {separator : List Char} (hi : ∀ a ∈ as, Reads item follows (written a) a)
    (hsep : separator ≠ []) (hf : ∀ r, follows (separator ++ r)) :
    Reads (listed separator item)
      (fun rest => follows rest ∧ after? separator rest = none ∧ item rest = none)
      (separator.intercalate (as.map written)) as := by
  intro rest ⟨hr, hs, hn⟩
  by_cases hne : as = []
  · have hnone : separated separator item rest = none := by
      rw [separated, hn]
      rfl
    rw [hne, List.map_nil, List.intercalate_nil, List.nil_append, listed, hnone]
    rfl
  · have hl := reads_separated hi hsep hf hne rest ⟨hr, hs⟩
    rw [listed, hl]
    rfl

end

end StagedLoad.Text
