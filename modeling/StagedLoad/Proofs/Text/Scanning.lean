import Mathlib.Logic.Function.Basic
import StagedLoad.Staging.Dialect

/-!
# Where a quoted text ends

A scanner of SQL takes a quoted text off the head of its input: behind the opening quote one
character after the other, two quotes in a row as one, up to the first quote that no second one
follows (`Scans`).  This is what `readQuoted` computes (`readQuoted_eq_some_iff`).

Characters whose quotes are doubled are passed by the scanner one by one, whatever stands behind
them (`scansInside_doubled_append`).  So a quoted text cannot be ended by what is in it; and it is
ended by its own closing quote unless what follows begins with one more (`selfDelimiting_quoted`).
-/

namespace StagedLoad

namespace Text

/-! ## the scanner -/

/-- behind an opening quote, the scanner takes `text` off what is ahead and leaves `rest` -/
inductive ScansInside (q : Char) : (ahead text rest : List Char) → Prop
  | close {rest : List Char} (undoubled : ∀ r, rest ≠ q :: r) :
      ScansInside q (q :: rest) [] rest
  | pair {ahead text rest : List Char} (behind : ScansInside q ahead text rest) :
      ScansInside q (q :: q :: ahead) (q :: text) rest
  | plain {c : Char} {ahead text rest : List Char} (other : c ≠ q)
      (behind : ScansInside q ahead text rest) : ScansInside q (c :: ahead) (c :: text) rest

def Scans (q : Char) (ahead text rest : List Char) : Prop :=
  ∃ inside, ahead = q :: inside ∧ ScansInside q inside text rest

section
variable {q : Char} {ahead text rest : List Char}

/-! ## one character -/

theorem scansInside_nil : ¬ ScansInside q [] text rest := fun h => nomatch h

theorem scansInside_cons_of_ne {c : Char} (hc : c ≠ q) :
    ScansInside q (c :: ahead) text rest ↔
      ∃ more, text = c :: more ∧ ScansInside q ahead more rest := by
  constructor
  · intro h
    cases h with
    | close _ => exact absurd rfl hc
    | pair _ => exact absurd rfl hc
    | plain _ behind => exact ⟨_, rfl, behind⟩
  · rintro ⟨more, rfl, h⟩
    exact .plain hc h

theorem scansInside_pair :
    ScansInside q (q :: q :: ahead) text rest ↔
      ∃ more, text = q :: more ∧ ScansInside q ahead more rest := by
  constructor
  · intro h
    cases h with
    | close undoubled => exact absurd rfl (undoubled ahead)
    | pair behind => exact ⟨_, rfl, behind⟩
    | plain other _ => exact absurd rfl other
  · rintro ⟨more, rfl, h⟩
    exact .pair h

theorem scansInside_close (hq : ∀ r, ahead ≠ q :: r) :
    ScansInside q (q :: ahead) text rest ↔ text = [] ∧ rest = ahead := by
  constructor
  · intro h
    cases h with
    | close _ => exact ⟨rfl, rfl⟩
    | pair _ => exact absurd rfl (hq _)
    | plain other _ => exact absurd rfl other
  · rintro ⟨rfl, rfl⟩
    exact .close hq

theorem ScansInside.suffix (h : ScansInside q ahead text rest) : rest <:+ ahead := by
  induction h with
  | close _ => exact List.suffix_cons q _
  | pair _ ih => exact (ih.trans (List.suffix_cons q _)).trans (List.suffix_cons q _)
  | plain _ _ ih => exact ih.trans (List.suffix_cons _ _)

theorem ScansInside.suffix_of_quote (h : ScansInside q (q :: ahead) text rest) :
    rest <:+ ahead := by
  cases h with
  | close _ => exact List.suffix_rfl
  | pair behind => exact behind.suffix.trans (List.suffix_cons q _)
  | plain other _ => exact absurd rfl other

/-! ## the scanner and the reader -/

theorem map_cons_eq_some_iff {c : Char} {o : Option (List Char × List Char)} :
    (o.map fun (text, rest) => (c :: text, rest)) = some (text, rest) ↔
      ∃ more, text = c :: more ∧ o = some (more, rest) := by
  rw [Option.map_eq_some_iff]
  constructor
  · rintro ⟨⟨more, left⟩, ho, he⟩
    cases he
    exact ⟨more, rfl, ho⟩
  · rintro ⟨more, rfl, ho⟩
    exact ⟨(more, rest), ho, rfl⟩

theorem readInside_eq_some_iff :
    readInside q ahead = some (text, rest) ↔ ScansInside q ahead text rest := by
  -- by the cases of the reader: no character, one alone, two quotes, a quote before another
  -- character, any other character
  induction ahead using readInside.induct q generalizing text rest with
  | case1 => exact iff_of_false (fun h => nomatch h) scansInside_nil
  | case2 =>
    have hq : ∀ r : List Char, [] ≠ q :: r := fun _ h => nomatch h
    rw [readInside_close q hq, scansInside_close hq]
    simp [eq_comm]
  | case3 c hc =>
    rw [readInside_cons_of_ne hc, map_cons_eq_some_iff, scansInside_cons_of_ne hc]
    simp [readInside, scansInside_nil]
  | case4 cs ih =>
    rw [readInside_pair, map_cons_eq_some_iff, scansInside_pair]
    simp only [ih]
  | case5 d cs hd =>
    have hq : ∀ r, d :: cs ≠ q :: r := fun _ h => hd (List.cons.inj h).1
    rw [readInside_close q hq, scansInside_close hq]
    simp [eq_comm]
  | case6 c d cs hc ih =>
    rw [readInside_cons_of_ne hc, map_cons_eq_some_iff, scansInside_cons_of_ne hc]
    simp only [ih]

/-- the reader of quoted texts is the scanner -/
theorem readQuoted_eq_some_iff :
    readQuoted q ahead = some (text, rest) ↔ Scans q ahead text rest := by
  cases ahead with
  | nil =>
    refine iff_of_false (fun h => Option.some_ne_none _ h.symm) ?_
    rintro ⟨_, he, _⟩
    cases he
  | cons c cs =>
    by_cases hc : c = q
    · subst hc
      rw [readQuoted, if_pos rfl, readInside_eq_some_iff]
      constructor
      · intro h
        exact ⟨cs, rfl, h⟩
      · rintro ⟨_, he, h⟩
        cases he
        exact h
    · rw [readQuoted, if_neg hc]
      refine iff_of_false (fun h => Option.some_ne_none _ h.symm) ?_
      rintro ⟨_, he, _⟩
      exact hc (List.cons.inj he).1

/-! ## doubled quotes -/

theorem scansInside_doubled_append (cs : List Char) :
    ScansInside q (doubled q cs ++ ahead) text rest ↔
      ∃ more, text = cs ++ more ∧ ScansInside q ahead more rest := by
  induction cs generalizing text with
  | nil => simp [doubled_nil]
  | cons c cs ih =>
    -- the first character, written once or twice, is taken as it is
    have hc : ScansInside q (doubled q (c :: cs) ++ ahead) text rest ↔
        ∃ more, text = c :: more ∧ ScansInside q (doubled q cs ++ ahead) more rest := by
      rw [doubled_cons]
      split
      · next h =>
        rw [h]
        exact scansInside_pair
      · next h => exact scansInside_cons_of_ne h
    rw [hc]
    constructor
    · rintro ⟨_, rfl, h⟩
      obtain ⟨more, rfl, hm⟩ := ih.mp h
      exact ⟨more, rfl, hm⟩
    · rintro ⟨more, rfl, hm⟩
      exact ⟨cs ++ more, rfl, ih.mpr ⟨more, rfl, hm⟩⟩

theorem scans_quotedChars_append (cs : List Char) :
    Scans q (quotedChars q cs ++ ahead) text rest ↔
      ∃ more, text = cs ++ more ∧ ScansInside q (q :: ahead) more rest := by
  have hq : quotedChars q cs ++ ahead = q :: (doubled q cs ++ q :: ahead) := by
    simp [quotedChars]
  rw [← scansInside_doubled_append, hq]
  constructor
  · rintro ⟨_, he, h⟩
    cases he
    exact h
  · intro h
    exact ⟨_, rfl, h⟩

/-- a quoted text is scanned in front of anything that does not begin with a quote, and that is
the only way to scan it there -/
theorem scans_quoted_append {s : String} (hq : ∀ r, ahead ≠ q :: r) :
    Scans q ((quoted q s).toList ++ ahead) text rest ↔ text = s.toList ∧ rest = ahead := by
  rw [toList_quoted, scans_quotedChars_append]
  simp only [scansInside_close hq]
  constructor
  · rintro ⟨_, rfl, rfl, rfl⟩
    exact ⟨List.append_nil _, rfl⟩
  · rintro ⟨rfl, rfl⟩
    exact ⟨[], (List.append_nil _).symm, rfl, rfl⟩

theorem Scans.eq_append (h : Scans q ahead text rest) : ahead = quotedChars q text ++ rest := by
  obtain ⟨inside, rfl, h⟩ := h
  have hi : inside = doubled q text ++ q :: rest := by
    induction h with
    | close _ => rfl
    | pair _ ih =>
      rw [doubled_cons, if_pos rfl, ih]
      rfl
    | plain other _ ih =>
      rw [doubled_cons, if_neg other, ih]
      rfl
  rw [hi]
  simp [quotedChars]

end

/-! ## the law -/

/-- what is written for a text is a quoted text, whatever is in it, and tells where it ends -/
structure SelfDelimiting (q : Char) (write : String → String) : Prop where
  /-- in front of anything that does not begin with a quote, the text is read back and what
  follows is left -/
  reads : ∀ (s : String) (rest : List Char), (∀ r, rest ≠ q :: r) →
    readQuoted q ((write s).toList ++ rest) = some (s.toList, rest)
  scans_iff : ∀ (s : String) (rest : List Char), (∀ r, rest ≠ q :: r) → ∀ text left,
    Scans q ((write s).toList ++ rest) text left ↔ text = s.toList ∧ left = rest
  /-- in front of anything at all, it does not stop before the end of what is written -/
  not_early : ∀ (s : String) (rest text left : List Char),
    Scans q ((write s).toList ++ rest) text left → s.toList <+: text ∧ left <:+ rest
  written : ∀ (ahead : List Char) (s : String) (rest : List Char),
    Scans q ahead s.toList rest → ahead = (write s).toList ++ rest
  injective : Function.Injective write

theorem selfDelimiting_quoted (q : Char) : SelfDelimiting q (quoted q) where
  reads s rest hq := readQuoted_eq_some_iff.mpr ((scans_quoted_append hq).mpr ⟨rfl, rfl⟩)
  scans_iff s rest hq text left := scans_quoted_append hq
  not_early s rest text left h := by
    rw [toList_quoted, scans_quotedChars_append] at h
    obtain ⟨more, rfl, h⟩ := h
    exact ⟨List.prefix_append _ _, h.suffix_of_quote⟩
  written ahead s rest h := by
    rw [toList_quoted]
    exact h.eq_append
  injective s t h := by
    have hq : ∀ r : List Char, [] ≠ q :: r := fun _ h => nomatch h
    have hs : Scans q ((quoted q t).toList ++ []) s.toList [] := by
      rw [← h]
      exact (scans_quoted_append hq).mpr ⟨rfl, rfl⟩
    exact String.toList_inj.mp ((scans_quoted_append hq).mp hs).1

end Text

namespace Dialect

open Text

/-- **In either dialect names and text values are quoted so that each tells where it ends**: a
scanner gives it back and goes on with what follows, as long as this does not begin with the
quote; it never stops inside; and different names, or different values, are written
differently. -/
theorem quoting_selfDelimiting (d : Dialect) :
    SelfDelimiting '"' d.quoteName ∧ SelfDelimiting '\'' d.quoteText :=
  ⟨selfDelimiting_quoted '"', selfDelimiting_quoted '\''⟩

/-- a name with quotes at its start, in a row, and at its end, in front of a column of another
name; and a value that is a quote and the end of a statement -/
theorem quoting_selfDelimiting_runs_of_quotes :
    let name := "\"a\"\"b\""
    let value := "'; DROP TABLE \"a\"; --'"
    readQuoted '"' ((Dialect.sqlite.quoteName name).toList ++ ".\"id\"".toList) =
        some (name.toList, ".\"id\"".toList) ∧
      readQuoted '\'' ((Dialect.postgres.quoteText value).toList ++ ")".toList) =
        some (value.toList, ")".toList) ∧
      Dialect.postgres.quoteText value ≠ Dialect.postgres.quoteText "'" := by
  intro name value
  refine ⟨(quoting_selfDelimiting .sqlite).1.reads name _ fun r h => ?_,
    (quoting_selfDelimiting .postgres).2.reads value _ fun r h => ?_,
    (quoting_selfDelimiting .postgres).2.injective.ne (by decide)⟩
  · cases h
  · cases h

/-- a quote that follows goes on with the name instead of ending it -/
example :
    readQuoted '"' ((Dialect.sqlite.quoteName "a").toList ++ "\"b\"".toList) =
      some ("a\"b".toList, []) := by decide

end Dialect

end StagedLoad
