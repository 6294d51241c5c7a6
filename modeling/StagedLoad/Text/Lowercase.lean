import StagedLoad.Text.Case

/-!
# Lower-casing a text

Every character is replaced by its lower-case form on its own, except the capital sigma, whose
form depends on where it stands: at the end of a word it is `ς`, elsewhere `σ`.  A sigma ends a
word when the nearest character before it that can show case does, and the nearest one after it
does not; characters that do not interrupt a word are looked through on both sides.
-/

namespace StagedLoad.Text

/-- the nearest character that is not case-ignorable has a case -/
def casedBeyond : List Char → Bool
  | [] => false
  | c :: cs => if isCaseIgnorable c then casedBeyond cs else isCased c

/-- `cs` in lower case, where `before` holds the characters ahead of it, nearest first -/
def lowercaseAfter (before : List Char) : List Char → List Char
  | [] => []
  | c :: cs =>
    let form :=
      if c = 'Σ' then [if casedBeyond before && !casedBeyond cs then 'ς' else 'σ'] else lowered c
    form ++ lowercaseAfter (c :: before) cs

def lowercase (s : String) : String := String.ofList (lowercaseAfter [] s.toList)

end StagedLoad.Text
