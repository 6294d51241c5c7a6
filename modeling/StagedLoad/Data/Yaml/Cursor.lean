import StagedLoad.Data.Yaml.Character

/-!
# Places in a YAML text

A `Cursor` is what is left of a text together with the place it starts at.  A `Gap` is a run of
blanks and line ends inside a text value, which is read as less than it is written: blanks around
line ends vanish, a single line feed becomes a space, and of several the first vanishes.

Also the causes for which a text is no YAML text.
-/

namespace StagedLoad.Data.Yaml

inductive Fault where
  | character (c : Char)
  | noToken (c : Char)
  | valueExpected
  | entryNotAllowed
  | keyNotAllowed
  | valueNotAllowed
  | tabIndentation
  | colonInFlow
  | unclosedText
  | markInText
  | badEscape
  | badBlockHeader
  | badDirective
  | badAnchor
  | badTag
  | unknownTagHandle
  | unknownAnchor (name : String)
  | contentExpected
  | entryExpected
  | keyExpected
  | secondDocument
  deriving DecidableEq, Repr

def Fault.message : Fault → String
  | .character _ => "a control character is not allowed"
  | .noToken _ => "a character cannot start anything here"
  | .valueExpected => "a colon was expected behind a key"
  | .entryNotAllowed => "a sequence entry is not allowed here"
  | .keyNotAllowed => "a mapping key is not allowed here"
  | .valueNotAllowed => "a mapping value is not allowed here"
  | .tabIndentation => "a tab stands in the indentation"
  | .colonInFlow => "a colon stands before an indicator"
  | .unclosedText => "a quoted text is not closed"
  | .markInText => "a document mark stands in a quoted text"
  | .badEscape => "an escape is not known"
  | .badBlockHeader => "the head of a block text is malformed"
  | .badDirective => "a directive is malformed"
  | .badAnchor => "the name of an anchor is malformed"
  | .badTag => "a tag is malformed"
  | .unknownTagHandle => "the handle of a tag is not declared"
  | .unknownAnchor name => "the anchor " ++ name ++ " is not known"
  | .contentExpected => "a value was expected"
  | .entryExpected => "the next entry or the end of a collection was expected"
  | .keyExpected => "a key was expected"
  | .secondDocument => "the text holds more than one document"

/-! ## cursors -/

/-- what is left of a text, and where it starts -/
structure Cursor where
  rest : List Char
  index : Nat := 0
  line : Nat := 0
  column : Nat := 0

namespace Cursor

def next (c : Cursor) : Cursor :=
  match c.rest with
  | [] => c
  | ch :: cs =>
    if isBreak ch then ⟨cs, c.index + 1, c.line + 1, 0⟩
    else ⟨cs, c.index + 1, c.line, c.column + 1⟩

def advance : Nat → Cursor → Cursor
  | 0, c => c
  | n + 1, c => advance n c.next

def skipWhile (p : Char → Bool) (c : Cursor) : Cursor := c.advance (c.rest.takeWhile p).length

/-- at a line start, three hyphens or three dots with a gap behind them -/
def atMark (c : Cursor) : Bool :=
  c.column == 0 &&
    match c.rest with
    | '-' :: '-' :: '-' :: cs => startsGap cs
    | '.' :: '.' :: '.' :: cs => startsGap cs
    | _ => false

def atGap (c : Cursor) : Bool := (c.rest.head?.map isGap).getD false

end Cursor

/-! ## gaps -/

/-- a run of blanks and line ends -/
structure Gap where
  blanks : List Char := []
  broken : Bool := false
  /-- the first line end, unless that is escaped -/
  first : List Char := []
  others : List Char := []

namespace Gap

def addBreak (g : Gap) (ch : Char) : Gap :=
  if g.broken then { g with others := g.others ++ [ch] }
  else { blanks := [], broken := true, first := [ch] }

def folded (g : Gap) : List Char :=
  if !g.broken then g.blanks
  else if g.first = ['\n'] then (if g.others.isEmpty then [' '] else g.others)
  else g.first ++ g.others

/-- the gap that goes on from `g` at a cursor, with a tab left of column `limit` refused behind a
line end; `n` is at least the number of characters left -/
def scan (limit : Nat) : (n : Nat) → Gap → Cursor → Except Fault (Gap × Cursor)
  | 0, g, c => .ok (g, c)
  | n + 1, g, c =>
    match c.rest with
    | [] => .ok (g, c)
    | ch :: _ =>
      if isBlank ch then
        if g.broken && ch == '\t' && c.column < limit then .error .tabIndentation
        else scan limit n (if g.broken then g else { g with blanks := g.blanks ++ [ch] }) c.next
      else if isBreak ch then scan limit n (g.addBreak ch) c.next
      else .ok (g, c)

end Gap

end StagedLoad.Data.Yaml
