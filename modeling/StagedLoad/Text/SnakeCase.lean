import StagedLoad.Text.Alphanumeric
import StagedLoad.Text.Case

/-!
# Snake case

A name is cut into words, each word is put in lower case, and the words are joined by an
underscore.  Characters that are neither letters nor digits separate words and are dropped.
Inside a run of letters and digits a word also ends where a lower-case letter meets an upper-case
one (`accountId` is `account`, `Id`), and before the last capital of a run of capitals that a
lower-case letter follows (`HTTPServer` is `HTTP`, `Server`).
-/

namespace StagedLoad.Text

/-- the case of the word so far: that of its last character that is upper or lower case -/
inductive WordCase where
  | none
  | lower
  | upper
  deriving DecidableEq, Repr

def WordCase.after (m : WordCase) (c : Char) : WordCase :=
  if isLowercase c then .lower else if isUppercase c then .upper else m

/-- the words of one run of letters and digits.  `word` holds the characters of the current word
so far, last first, and `m` its case; both start afresh after a cut. -/
def wordsOfRun (m : WordCase) (word : List Char) : List Char → List (List Char)
  | [] => []
  | [c] => [(c :: word).reverse]
  | c :: d :: rest =>
    if m.after c = .lower ∧ isUppercase d then
      (c :: word).reverse :: wordsOfRun .none [] (d :: rest)
    else if m = .upper ∧ isUppercase c ∧ isLowercase d then
      word.reverse :: wordsOfRun .none [c] (d :: rest)
    else
      wordsOfRun (m.after c) (c :: word) (d :: rest)

/-- the maximal runs of letters and digits, with `run` the current one so far, last first -/
def runsOf (run : List Char) : List Char → List (List Char)
  | [] => [run.reverse]
  | c :: cs => if isAlphanumeric c then runsOf (c :: run) cs else run.reverse :: runsOf [] cs

/-- a word in lower case: each character on its own, and a sigma at the very end in its final
form -/
def lowercaseWord : List Char → List Char
  | [] => []
  | ['Σ'] => ['ς']
  | c :: cs => lowered c ++ lowercaseWord cs

def wordsOf (cs : List Char) : List (List Char) :=
  (runsOf [] cs).flatMap (wordsOfRun .none [])

def snakeCase (s : String) : String :=
  String.ofList (['_'].intercalate ((wordsOf s.toList).map lowercaseWord))

end StagedLoad.Text
