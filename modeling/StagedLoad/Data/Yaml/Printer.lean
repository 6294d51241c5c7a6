import StagedLoad.Data.Tree
import StagedLoad.Data.Yaml.Implied

/-!
# Printing YAML

Trees are printed in block style, two columns per level, with the entries of a list in the column
of the key they belong to.  A text is written in the plainest way that keeps it: plain, in single
quotes, as a literal block if it has several lines, or in double quotes with escapes.  A key that
is too long or has several lines stands behind a question mark, and its value behind a colon on
a line of its own.  Lines are never folded.

A printed value ends at the end of its line, so that whatever follows starts a new one.
-/

namespace StagedLoad.Data.Yaml

open StagedLoad.Text

/-! ## how a text may be written -/

def hasSpaceBreak : List Char → Bool
  | ' ' :: c :: cs => isBreak c || hasSpaceBreak (c :: cs)
  | _ :: cs => hasSpaceBreak cs
  | [] => false

def hasBreakSpace : List Char → Bool
  | b :: c :: cs => (isBreak b && c == ' ') || hasBreakSpace (c :: cs)
  | _ => false

/-- a gap of any kind; the end of a text and a NUL count as one -/
def isGapOrNul (c : Char) : Bool := isGap c || c == '\x00' || c == '\r' || c.toNat == 0x85

def atGapOrNul (cs : List Char) : Bool := (cs.head?.map isGapOrNul).getD true

/-- a character inside a text that would end a plain text: a colon before a gap, or a number sign
behind one -/
def hasInnerIndicator (afterGap : Bool) : List Char → Bool
  | [] => false
  | c :: cs =>
    (c == ':' && atGapOrNul cs) || (c == '#' && afterGap) || hasInnerIndicator (isGapOrNul c) cs

def startsIndicated : List Char → Bool
  | '-' :: '-' :: '-' :: _ => true
  | '.' :: '.' :: '.' :: _ => true
  | [] => false
  | c :: cs =>
    "#,[]\x7b\x7d&*!|>'\"%@`".toList.contains c ||
      ((c == '?' || c == ':' || c == '-') && atGapOrNul cs)

def needsEscapes (cs : List Char) : Bool := cs.any (!isPlainlyWritten ·)

def isMultiline (cs : List Char) : Bool :=
  cs.any fun c => isBreak c || c == '\r' || c.toNat == 0x85

def canBePlain (cs : List Char) : Bool :=
  !cs.isEmpty && !needsEscapes cs && !isMultiline cs && cs.head? != some ' ' &&
    cs.getLast? != some ' ' && !startsIndicated cs && !hasInnerIndicator false cs.tail

def canBeSingleQuoted (cs : List Char) : Bool :=
  !needsEscapes cs && !hasSpaceBreak cs && !hasBreakSpace cs

def canBeLiteral (cs : List Char) : Bool :=
  !cs.isEmpty && !needsEscapes cs && !hasSpaceBreak cs && cs.getLast? != some ' '

def styleOf (s : String) : Style :=
  let cs := s.toList
  if cs.contains '\n' then
    if canBeLiteral cs then .literal else .doubleQuoted
  else if !isImplied s && canBePlain cs then .plain
  else if canBeSingleQuoted cs then .singleQuoted
  else .doubleQuoted

/-! ## the written forms of a text -/

def spaces (n : Nat) : List Char := List.replicate n ' '

/-- the characters of a text with each line but the first indented, empty ones excepted;
`atStart` if a line end is just behind -/
def indentLines (indent : Nat) (atStart : Bool) : List Char → List Char
  | [] => []
  | c :: cs =>
    if isBreak c then c :: indentLines indent true cs
    else (if atStart then spaces indent else []) ++ c :: indentLines indent false cs

def singleQuotedText (indent : Nat) (cs : List Char) : List Char :=
  let inner := indentLines indent false cs
  let last := if (cs.getLast?.map isBreak).getD false then spaces indent else []
  '\'' :: inner.flatMap (fun c => if c == '\'' then ['\'', '\''] else [c]) ++ last ++ ['\'']

def escapeOf (c : Char) : List Char :=
  let n := c.toNat
  '\\' :: (
    if n = 0x00 then ['0']
    else if n = 0x07 then ['a']
    else if n = 0x08 then ['b']
    else if n = 0x09 then ['t']
    else if n = 0x0A then ['n']
    else if n = 0x0B then ['v']
    else if n = 0x0C then ['f']
    else if n = 0x0D then ['r']
    else if n = 0x1B then ['e']
    else if n = 0x22 then ['"']
    else if n = 0x5C then ['\\']
    else if n = 0x85 then ['N']
    else if n = 0xA0 then ['_']
    else if n = 0x2028 then ['L']
    else if n = 0x2029 then ['P']
    else if n ≤ 0xFF then 'x' :: hexUpper 2 n
    else if n ≤ 0xFFFF then 'u' :: hexUpper 4 n
    else 'U' :: hexUpper 8 n)

def doubleQuotedText (cs : List Char) : List Char :=
  let inner := cs.flatMap fun c =>
    if !isPlainlyWritten c || isBreak c || c == '"' || c == '\\' then escapeOf c else [c]
  '"' :: inner ++ ['"']

/-- the indicator of a literal block that begins with a space or a line end: its indentation -/
def indentHint (cs : List Char) : List Char :=
  if (cs.head?.map fun c => c == ' ' || isBreak c).getD false then ['2'] else []

def chompHint (cs : List Char) : List Char :=
  match cs.reverse with
  | [] => ['-']
  | [c] => if isBreak c then ['+'] else ['-']
  | c :: d :: _ => if !isBreak c then ['-'] else if isBreak d then ['+'] else []

def literalText (indent : Nat) (cs : List Char) : List Char :=
  '|' :: indentHint cs ++ chompHint cs ++ '\n' :: indentLines indent true cs

/-- a text in its written form, with the lines of a block at a column -/
def printText (indent : Nat) (s : String) : List Char :=
  let cs := s.toList
  match styleOf s with
  | .plain => cs
  | .singleQuoted => singleQuotedText indent cs
  | .doubleQuoted => doubleQuotedText cs
  | _ => literalText indent cs

/-! ## trees -/

def endLine (cs : List Char) : List Char :=
  if (cs.getLast?.map isBreak).getD false then cs else cs ++ ['\n']

/-- a key that can stand in front of its colon -/
def isShortKey (name : String) : Bool :=
  name.utf8ByteSize ≤ 128 && !isMultiline name.toList

mutual

/-- a tree behind what leads up to it: the colon of a key in column `indent`, or, unless
`afterKey`, something on the same line that leaves `indent` as the column of its entries -/
def printTree (afterKey : Bool) (indent : Nat) : Tree → List Char
  | .text s =>
    if afterKey then ' ' :: endLine (printText (indent + 2) s) else endLine (printText indent s)
  | .flag b => (if afterKey then [' '] else []) ++ (if b then "true\n" else "false\n").toList
  | .list items =>
    if items.isEmpty then (if afterKey then " []\n" else "[]\n").toList
    else (if afterKey then ['\n'] else []) ++ printItems indent (!afterKey) items
  | .table entries =>
    if entries.isEmpty then (if afterKey then " \x7b\x7d\n" else "\x7b\x7d\n").toList
    else if afterKey then '\n' :: printEntries (indent + 2) false entries
    else printEntries indent true entries

/-- the items of a list, hyphens in column `indent`; the first goes on in its line if `goesOn` -/
def printItems (indent : Nat) (goesOn : Bool) : List Tree → List Char
  | [] => []
  | t :: ts =>
    (if goesOn then [] else spaces indent) ++ '-' :: ' ' :: printTree false (indent + 2) t ++
      printItems indent false ts

def printEntries (indent : Nat) (goesOn : Bool) : List (String × Tree) → List Char
  | [] => []
  | (name, t) :: es =>
    (if goesOn then [] else spaces indent) ++
      (if isShortKey name then printText (indent + 2) name ++ ':' :: printTree true indent t
      else
        '?' :: ' ' :: endLine (printText (indent + 2) name) ++ spaces indent ++
          ':' :: ' ' :: printTree false (indent + 2) t) ++
      printEntries indent false es

end

def print (t : Tree) : String := String.ofList (printTree false 0 t)

end StagedLoad.Data.Yaml
