import StagedLoad.Data.Json.Printer
import StagedLoad.Data.Json.Reader
import StagedLoad.Proofs.Data.Shown
import StagedLoad.Proofs.Text.Reading

/-!
# JSON texts of trees

What is printed of a tree is read as the value that has the texts, flags, items and entries of the
tree (`read?_print`), and this value shows the tree (`shows_ofTree`).

The printed characters are laid out in the order in which they are read (`Tree.chars`): behind a
value in a list stands either the next one, behind a comma, or the end of the list.  A string is
read character by character, each from its own escape (`pieces_escapedChar`).
-/

namespace StagedLoad.Data.Json

open StagedLoad.Text

/-! ## strings -/

def withChar (c : Char) (found : List Piece × List Char) : List Piece × List Char :=
  (.char c :: found.1, found.2)

theorem pieces_escape {e c : Char} (hu : e ≠ 'u') (he : escaped? e = some c) (cs : List Char) :
    pieces ('\\' :: e :: cs) = (pieces cs).map (withChar c) := by
  rw [pieces.eq_4 e cs fun _ _ _ _ _ h => absurd h hu, he]
  cases pieces cs <;> rfl

theorem pieces_plain {c : Char} (hq : c ≠ '"') (hb : c ≠ '\\') (hc : ¬ c.toNat < 0x20)
    (cs : List Char) : pieces (c :: cs) = (pieces cs).map (withChar c) := by
  rw [pieces.eq_5 c cs hq (fun _ _ _ _ _ h => absurd h hb) fun _ _ h => absurd h hb, if_neg hc]
  cases pieces cs <;> rfl

theorem hexNumberAfter?_hexLower : ∀ n < 0x20,
    (hexLower 4 n).length = 4 ∧ hexNumberAfter? 0 (hexLower 4 n) = some n := by
  decide

theorem pieces_control {n : Nat} (hn : n < 0x20) (cs : List Char) :
    pieces ('\\' :: 'u' :: hexLower 4 n ++ cs) = (pieces cs).map (withChar (Char.ofNat n)) := by
  obtain ⟨hl, hv⟩ := hexNumberAfter?_hexLower n hn
  have hp : Piece.ofCode n = .char (Char.ofNat n) := by
    rw [Piece.ofCode, if_neg (by omega)]
  match hexLower 4 n, hl, hv with
  | [a, b, c, d], _, hv =>
    show pieces ('\\' :: 'u' :: a :: b :: c :: d :: cs) = _
    rw [pieces.eq_3, hv]
    cases pieces cs with
    | none => rfl
    | some found =>
      show some (Piece.ofCode n :: found.1, found.2) = _
      rw [hp]
      rfl

theorem pieces_escapedChar (c : Char) (cs : List Char) :
    pieces (escapedChar c ++ cs) = (pieces cs).map (withChar c) := by
  unfold escapedChar
  split
  · exact pieces_escape (by decide) rfl cs
  · exact pieces_escape (by decide) rfl cs
  · exact pieces_escape (by decide) rfl cs
  · exact pieces_escape (by decide) rfl cs
  · exact pieces_escape (by decide) rfl cs
  · exact pieces_escape (by decide) rfl cs
  · exact pieces_escape (by decide) rfl cs
  · next hq hb _ _ _ _ _ =>
    split
    · next hc =>
      rw [pieces_control hc, Char.ofNat_toNat]
    · next hc => exact pieces_plain hq hb hc cs

theorem pieces_flatMap (s rest : List Char) :
    pieces (s.flatMap escapedChar ++ '"' :: rest) = some (s.map .char, rest) := by
  induction s with
  | nil => rfl
  | cons c s ih =>
    rw [List.flatMap_cons, List.append_assoc, pieces_escapedChar, ih]
    rfl

theorem text?_map_char (s : List Char) : text? (s.map .char) = some s := by
  induction s with
  | nil => rfl
  | cons c s ih =>
    rw [List.map_cons, text?, ih]
    rfl

/-- the characters of a string behind its opening quote -/
def stringChars (s : String) : List Char := s.toList.flatMap escapedChar ++ ['"']

theorem toList_printText (s : String) : (printText s).toList = '"' :: stringChars s :=
  String.toList_ofList

theorem string?_stringChars (s : String) (rest : List Char) :
    string? (stringChars s ++ rest) = some (some s, rest) := by
  have hp : pieces (stringChars s ++ rest) = some (s.toList.map .char, rest) := by
    rw [stringChars, List.append_assoc]
    exact pieces_flatMap s.toList rest
  rw [string?, hp, Option.map_some]
  dsimp only
  rw [text?_map_char, Option.map_some, String.ofList_toList]

/-! ## the characters of a tree -/

mutual

def ofTree : Tree → Json
  | .text s => .string (some s)
  | .flag b => .flag b
  | .list ts => .array (ofItems ts)
  | .table es => .object (ofEntries es)

def ofItems : List Tree → List Json
  | [] => []
  | t :: ts => ofTree t :: ofItems ts

def ofEntries : List (String × Tree) → List (Option String × Json)
  | [] => []
  | (name, t) :: es => (some name, ofTree t) :: ofEntries es

end

mutual

def chars : Tree → List Char
  | .text s => '"' :: stringChars s
  | .flag b => if b then "true".toList else "false".toList
  | .list [] => "[]".toList
  | .list (t :: ts) => '[' :: (chars t ++ charsBehind ts)
  | .table [] => "\x7b\x7d".toList
  | .table ((name, t) :: es) =>
    '\x7b' :: '"' :: (stringChars name ++ ':' :: (chars t ++ charsBehindEntry es))

/-- the characters behind an item, with those that follow it -/
def charsBehind : List Tree → List Char
  | [] => [']']
  | t :: ts => ',' :: (chars t ++ charsBehind ts)

def charsBehindEntry : List (String × Tree) → List Char
  | [] => ['\x7d']
  | (name, t) :: es => ',' :: '"' :: (stringChars name ++ ':' :: (chars t ++ charsBehindEntry es))

end

mutual

theorem toList_print : (t : Tree) → (print t).toList = chars t
  | .text s => toList_printText s
  | .flag true => rfl
  | .flag false => rfl
  | .list [] => rfl
  | .list (t :: ts) => by
    have hi := toList_printItems ts
    have ht := toList_print t
    simp [print, printItems, chars, String.toList_intercalate, intercalate_cons, hi, ht]
  | .table [] => rfl
  | .table ((name, t) :: es) => by
    have he := toList_printEntries es
    have ht := toList_print t
    simp [print, printEntries, chars, String.toList_intercalate, intercalate_cons, he, ht,
      toList_printText]

theorem toList_printItems : (ts : List Tree) →
    ((printItems ts).map String.toList).flatMap (',' :: ·) ++ [']'] = charsBehind ts
  | [] => rfl
  | t :: ts => by
    have hi := toList_printItems ts
    have ht := toList_print t
    simp [printItems, charsBehind, ← hi, ht]

theorem toList_printEntries : (es : List (String × Tree)) →
    ((printEntries es).map String.toList).flatMap (',' :: ·) ++ ['\x7d'] = charsBehindEntry es
  | [] => rfl
  | (name, t) :: es => by
    have he := toList_printEntries es
    have ht := toList_print t
    simp [printEntries, charsBehindEntry, ← he, ht, toList_printText]

end

/-! ## reading a tree -/

/-- no white space stands in front of a value, and a value does not begin as a list or a table
ends -/
def BeginsValue (cs : List Char) : Prop :=
  ∃ c rest, cs = c :: rest ∧ c ∈ ['"', 't', 'f', '[', '\x7b']

theorem beginsValue_chars (t : Tree) (rest : List Char) : BeginsValue (chars t ++ rest) := by
  match t with
  | .text s => exact ⟨'"', stringChars s ++ rest, rfl, by decide⟩
  | .flag true => exact ⟨'t', _, rfl, by decide⟩
  | .flag false => exact ⟨'f', _, rfl, by decide⟩
  | .list [] => exact ⟨'[', _, rfl, by decide⟩
  | .list (t :: ts) => exact ⟨'[', _, rfl, by decide⟩
  | .table [] => exact ⟨'\x7b', _, rfl, by decide⟩
  | .table ((name, t) :: es) => exact ⟨'\x7b', _, rfl, by decide⟩

theorem length_chars_pos (t : Tree) : 0 < (chars t).length := by
  obtain ⟨c, rest, h, _⟩ := beginsValue_chars t []
  rw [List.append_nil] at h
  rw [h]
  exact Nat.succ_pos _

theorem value?_items {cs : List Char} (h : BeginsValue cs) (levels : Nat) :
    value? (levels + 1) ('[' :: cs) =
      (items? levels cs).map fun found => (.array found.1, found.2) := by
  obtain ⟨c, rest, rfl, hc⟩ := h
  simp only [List.mem_cons, List.not_mem_nil, or_false] at hc
  rcases hc with rfl | rfl | rfl | rfl | rfl <;> rfl

theorem value?_entries (cs : List Char) (levels : Nat) :
    value? (levels + 1) ('\x7b' :: '"' :: cs) =
      (entries? levels ('"' :: cs)).map fun found => (.object found.1, found.2) := rfl

theorem items?_more {levels : Nat} {cs rest : List Char} {v : Json}
    (h : value? levels cs = some (v, ',' :: rest)) :
    items? (levels + 1) cs =
      (items? levels rest).map fun found => (v :: found.1, found.2) := by
  rw [items?, h]
  show (items? levels rest >>= _) = _
  cases items? levels rest <;> rfl

theorem items?_last {levels : Nat} {cs rest : List Char} {v : Json}
    (h : value? levels cs = some (v, ']' :: rest)) :
    items? (levels + 1) cs = some ([v], rest) := by
  rw [items?, h]
  rfl

theorem entries?_more {levels : Nat} {name : String} {cs rest : List Char} {v : Json}
    (h : value? levels cs = some (v, ',' :: rest)) :
    entries? (levels + 1) ('"' :: (stringChars name ++ ':' :: cs)) =
      (entries? levels rest).map fun found => ((some name, v) :: found.1, found.2) := by
  show (string? (stringChars name ++ ':' :: cs) >>= _) = _
  rw [string?_stringChars]
  show (value? levels cs >>= _) = _
  rw [h]
  show (entries? levels rest >>= _) = _
  cases entries? levels rest <;> rfl

theorem entries?_last {levels : Nat} {name : String} {cs rest : List Char} {v : Json}
    (h : value? levels cs = some (v, '\x7d' :: rest)) :
    entries? (levels + 1) ('"' :: (stringChars name ++ ':' :: cs)) =
      some ([(some name, v)], rest) := by
  show (string? (stringChars name ++ ':' :: cs) >>= _) = _
  rw [string?_stringChars]
  show (value? levels cs >>= _) = _
  rw [h]
  rfl

mutual

/-- a tree is read from its characters, whatever follows, when there are as many levels as
characters -/
theorem value?_chars : (t : Tree) → (levels : Nat) → (chars t).length ≤ levels →
    (rest : List Char) → value? levels (chars t ++ rest) = some (ofTree t, rest)
  | t, 0, h, _ => absurd (length_chars_pos t) (by omega)
  | .text s, levels + 1, _, rest => by
    show (string? (stringChars s ++ rest)).map _ = _
    rw [string?_stringChars]
    rfl
  | .flag true, levels + 1, _, _ => rfl
  | .flag false, levels + 1, _, _ => rfl
  | .list [], levels + 1, _, _ => rfl
  | .table [], levels + 1, _, _ => rfl
  | .list (t :: ts), levels + 1, h, rest => by
    have hl : (chars t).length + (charsBehind ts).length ≤ levels := by
      rw [chars, List.length_cons, List.length_append] at h
      omega
    rw [chars, List.cons_append, List.append_assoc,
      value?_items (beginsValue_chars t (charsBehind ts ++ rest)), items?_chars t ts levels hl rest]
    rfl
  | .table ((name, t) :: es), levels + 1, h, rest => by
    have hl : (chars t).length + (charsBehindEntry es).length ≤ levels := by
      simp only [chars, List.length_cons, List.length_append] at h
      omega
    rw [chars, List.cons_append, List.cons_append, List.append_assoc, List.cons_append,
      List.append_assoc, value?_entries, entries?_chars name t es levels hl rest]
    rfl

theorem items?_chars : (t : Tree) → (ts : List Tree) → (levels : Nat) →
    (chars t).length + (charsBehind ts).length ≤ levels → (rest : List Char) →
    items? levels (chars t ++ (charsBehind ts ++ rest)) = some (ofTree t :: ofItems ts, rest)
  | t, _, 0, h, _ => absurd (length_chars_pos t) (by omega)
  | t, [], levels + 1, h, rest => by
    have hl : (chars t).length ≤ levels := Nat.le_of_succ_le_succ h
    exact items?_last (value?_chars t levels hl (']' :: rest))
  | t, u :: us, levels + 1, h, rest => by
    rw [charsBehind, List.length_cons, List.length_append] at h
    have ht := value?_chars t levels (by omega) (',' :: (chars u ++ charsBehind us ++ rest))
    have hu := items?_chars u us levels (by omega) rest
    rw [charsBehind, List.cons_append, items?_more ht, List.append_assoc, hu]
    rfl

theorem entries?_chars : (name : String) → (t : Tree) → (es : List (String × Tree)) →
    (levels : Nat) → (chars t).length + (charsBehindEntry es).length ≤ levels →
    (rest : List Char) →
    entries? levels
        ('"' :: (stringChars name ++ ':' :: (chars t ++ (charsBehindEntry es ++ rest)))) =
      some ((some name, ofTree t) :: ofEntries es, rest)
  | _, t, _, 0, h, _ => absurd (length_chars_pos t) (by omega)
  | name, t, [], levels + 1, h, rest => by
    have hl : (chars t).length ≤ levels := Nat.le_of_succ_le_succ h
    exact entries?_last (value?_chars t levels hl ('\x7d' :: rest))
  | name, t, (other, u) :: es, levels + 1, h, rest => by
    simp only [charsBehindEntry, List.length_cons, List.length_append] at h
    have ht := value?_chars t levels (by omega)
      (',' :: '"' :: (stringChars other ++ ':' :: (chars u ++ (charsBehindEntry es ++ rest))))
    have hu := entries?_chars other u es levels (by omega) rest
    rw [charsBehindEntry]
    simp only [List.cons_append, List.append_assoc]
    rw [entries?_more ht, hu]
    rfl

end

/-- **What is printed of a tree is read as its value.** -/
theorem read?_print (t : Tree) : read? (print t) = some (ofTree t) := by
  have hv := value?_chars t (2 * (chars t).length + 1) (by omega) []
  rw [List.append_nil] at hv
  rw [read?, toList_print, hv]
  rfl

mutual

theorem shows_ofTree : (t : Tree) → form.shows t (ofTree t) = true
  | .text _ => Form.shows_text_iff.mpr ⟨rfl, rfl⟩
  | .flag _ => Form.shows_flag_iff.mpr rfl
  | .list ts => shows_ofItems ts
  | .table es => shows_ofEntries es

theorem shows_ofItems : (ts : List Tree) → form.showsItems ts (ofItems ts) = true
  | [] => rfl
  | t :: ts => Bool.and_eq_true_iff.mpr ⟨shows_ofTree t, shows_ofItems ts⟩

theorem shows_ofEntries : (es : List (String × Tree)) →
    form.showsEntries es (ofEntries es) = true
  | [] => rfl
  | (name, t) :: es => by
    have ht : (some name == some name && form.shows t (ofTree t)) = true := by
      rw [beq_self_eq_true, shows_ofTree t]
      rfl
    exact Bool.and_eq_true_iff.mpr ⟨ht, shows_ofEntries es⟩

end

end StagedLoad.Data.Json
