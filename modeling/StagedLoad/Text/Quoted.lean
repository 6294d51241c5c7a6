/-!
# Quoting by doubling

A text is quoted by writing it between two quote characters, with each quote character inside it
written twice.  `readQuoted` reads a quoted text back from the head of a longer one: it takes
characters up to the first quote that no second quote follows, reading a doubled quote as one.
Main statement: reading a quoted text gives it back together with whatever follows, as long as
what follows does not begin with the quote itself (`readQuoted_quoted_append`).
-/

namespace StagedLoad.Text

/-- every quote in a text written twice -/
def doubled (q : Char) : List Char → List Char
  | [] => []
  | c :: cs => if c = q then q :: q :: doubled q cs else c :: doubled q cs

def quotedChars (q : Char) (cs : List Char) : List Char := q :: (doubled q cs ++ [q])

def quoted (q : Char) (s : String) : String := String.ofList (quotedChars q s.toList)

/-- the rest of a quoted text after its opening quote, and what follows the closing quote -/
def readInside (q : Char) : List Char → Option (List Char × List Char)
  | [] => none
  | [c] => if c = q then some ([], []) else none
  | c :: d :: cs =>
    if c = q then
      if d = q then (readInside q cs).map fun (text, rest) => (q :: text, rest)
      else some ([], d :: cs)
    else (readInside q (d :: cs)).map fun (text, rest) => (c :: text, rest)

/-- the quoted text at the head of `cs`, and what follows it -/
def readQuoted (q : Char) : List Char → Option (List Char × List Char)
  | [] => none
  | c :: cs => if c = q then readInside q cs else none

/-! ## small facts -/

theorem doubled_nil (q : Char) : doubled q [] = [] := rfl

theorem doubled_cons (q c : Char) (cs : List Char) :
    doubled q (c :: cs) = (if c = q then [q, q] else [c]) ++ doubled q cs := by
  by_cases h : c = q <;> simp [doubled, h]

theorem toList_quoted (q : Char) (s : String) : (quoted q s).toList = quotedChars q s.toList := by
  simp [quoted]

theorem readInside_cons_of_ne {q c : Char} (h : c ≠ q) (cs : List Char) :
    readInside q (c :: cs) = (readInside q cs).map fun (text, rest) => (c :: text, rest) := by
  cases cs <;> simp [readInside, h]

theorem readInside_pair (q : Char) (cs : List Char) :
    readInside q (q :: q :: cs) = (readInside q cs).map fun (text, rest) => (q :: text, rest) := by
  simp [readInside]

theorem readInside_close (q : Char) {rest : List Char} (h : ∀ r, rest ≠ q :: r) :
    readInside q (q :: rest) = some ([], rest) := by
  cases rest with
  | nil => simp [readInside]
  | cons d ds =>
    have hd : d ≠ q := fun e => h ds (by rw [e])
    simp [readInside, hd]

theorem readInside_doubled_append (q : Char) (cs : List Char) {rest : List Char}
    (h : ∀ r, rest ≠ q :: r) :
    readInside q (doubled q cs ++ q :: rest) = some (cs, rest) := by
  induction cs with
  | nil => exact readInside_close q h
  | cons c cs ih =>
    by_cases hc : c = q
    · rw [hc, doubled_cons, if_pos rfl]
      show readInside q (q :: q :: (doubled q cs ++ q :: rest)) = _
      rw [readInside_pair, ih]; rfl
    · rw [doubled_cons, if_neg hc]
      show readInside q (c :: (doubled q cs ++ q :: rest)) = _
      rw [readInside_cons_of_ne hc, ih]; rfl

theorem readQuoted_quoted_append (q : Char) (s : String) {rest : List Char}
    (h : ∀ r, rest ≠ q :: r) :
    readQuoted q ((quoted q s).toList ++ rest) = some (s.toList, rest) := by
  rw [toList_quoted]
  simpa [quotedChars, readQuoted] using readInside_doubled_append q s.toList h

end StagedLoad.Text
