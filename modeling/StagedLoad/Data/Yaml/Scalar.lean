import StagedLoad.Data.Yaml.Cursor
import StagedLoad.Text.Hex

/-!
# Text values and how they are written

A text value is plain, quoted in one of two ways, or a block of lines of its own, literal or
folded.  Each way of writing is a function from the cursor behind its opening to the text and the
cursor behind its end.
-/

namespace StagedLoad.Data.Yaml

open StagedLoad.Text

inductive Style where
  | plain
  | singleQuoted
  | doubleQuoted
  | literal
  | folded
  deriving DecidableEq, Repr, Inhabited

/-! ## plain texts -/

/-- how many characters of a plain text stand before the next gap or end.  In a flow collection
brackets and commas end it too. -/
def plainWord (inFlow : Bool) : List Char → Except Fault Nat
  | [] => .ok 0
  | c :: cs =>
    if isGap c then .ok 0
    else if inFlow && c == ':' && (cs.head?.map (",?[]\x7b\x7d".toList.contains ·)).getD false then
      .error .colonInFlow
    else if (c == ':' && startsGap cs) || (inFlow && ",[]\x7b\x7d".toList.contains c) then .ok 0
    else (plainWord inFlow cs).map (· + 1)

/-- a plain text from a cursor on: `text` is what is read so far, last character first, and `gap`
the gap behind it.  The lines after the first are indented to `limit` outside flow
collections. -/
def plainFrom (inFlow : Bool) (limit : Nat) :
    (n : Nat) → (text : List Char) → Gap → Cursor → Except Fault (List Char × Gap × Cursor)
  | 0, text, gap, c => .ok (text, gap, c)
  | n + 1, text, gap, c =>
    if c.atMark || c.rest.head? == some '#' then .ok (text, gap, c)
    else do
      let k ← plainWord inFlow c.rest
      let c' := c.advance k
      let text' := if k = 0 then text else (c.rest.take k).reverse ++ (gap.folded.reverse ++ text)
      let gap' := if k = 0 then gap else {}
      if !c'.atGap then .ok (text', gap', c')
      else do
        let (gap'', c'') ← Gap.scan limit c'.rest.length gap' c'
        if !inFlow && c''.column < limit then .ok (text', gap'', c'')
        else plainFrom inFlow limit n text' gap'' c''

def plainText (inFlow : Bool) (limit : Nat) (c : Cursor) : Except Fault (String × Bool × Cursor) :=
  (plainFrom inFlow limit (c.rest.length + 1) [] {} c).map fun (text, gap, c) =>
    (String.ofList text.reverse, gap.broken, c)

/-! ## quoted texts -/

def escapedLetter? : Char → Option Char
  | '0' => some '\x00'
  | 'a' => some '\x07'
  | 'b' => some '\x08'
  | 't' => some '\t'
  | '\t' => some '\t'
  | 'n' => some '\n'
  | 'v' => some '\x0b'
  | 'f' => some '\x0c'
  | 'r' => some '\r'
  | 'e' => some '\x1b'
  | ' ' => some ' '
  | '"' => some '"'
  | '/' => some '/'
  | '\\' => some '\\'
  | 'N' => some (Char.ofNat 0x85)
  | '_' => some (Char.ofNat 0xA0)
  | 'L' => some (Char.ofNat 0x2028)
  | 'P' => some (Char.ofNat 0x2029)
  | _ => none

def escapeWidth? : Char → Option Nat
  | 'x' => some 2
  | 'u' => some 4
  | 'U' => some 8
  | _ => none

/-- the character of the escape behind a backslash, and its length -/
def escape (cs : List Char) : Except Fault (Char × Nat) :=
  match cs with
  | [] => .error .badEscape
  | e :: cs =>
    match escapedLetter? e with
    | some ch => .ok (ch, 1)
    | none =>
      match (escapeWidth? e).bind fun w => (hexTake? w cs).map (w, ·.1) with
      | none => .error .badEscape
      | some (w, n) => if n.isValidChar then .ok (Char.ofNat n, w + 1) else .error .badEscape

/-- the characters of a quoted text up to its end or the next gap, before `text`, last first; and
whether an escaped line end closed them -/
def quotedWord (single : Bool) :
    (n : Nat) → (text : List Char) → Cursor → Except Fault (List Char × Bool × Cursor)
  | 0, text, c => .ok (text, false, c)
  | n + 1, text, c =>
    match c.rest with
    | [] => .ok (text, false, c)
    | ch :: cs =>
      if isGap ch then .ok (text, false, c)
      else if single then
        if ch != '\'' then quotedWord single n (ch :: text) c.next
        else if cs.head? == some '\'' then quotedWord single n ('\'' :: text) (c.advance 2)
        else .ok (text, false, c)
      else if ch == '"' then .ok (text, false, c)
      else if ch != '\\' then quotedWord single n (ch :: text) c.next
      else if (cs.head?.map isBreak).getD false then .ok (text, true, c.advance 2)
      else do
        let (e, k) ← escape cs
        quotedWord single n (e :: text) (c.advance (k + 1))

/-- a quoted text from a cursor inside it on, `text` being what is read so far, last character
first -/
def quotedFrom (single : Bool) :
    (n : Nat) → (text : List Char) → Cursor → Except Fault (List Char × Cursor)
  | 0, _, _ => .error .unclosedText
  | n + 1, text, c =>
    if c.atMark then .error .markInText
    else if c.rest.isEmpty then .error .unclosedText
    else do
      let (text, escapedEnd, c) ← quotedWord single c.rest.length text c
      if c.rest.head? == some (if single then '\'' else '"') then .ok (text, c.next)
      else do
        let (gap, c) ← Gap.scan 0 c.rest.length { broken := escapedEnd } c
        quotedFrom single n (gap.folded.reverse ++ text) c

def quotedText (single : Bool) (c : Cursor) : Except Fault (String × Cursor) :=
  (quotedFrom single (c.rest.length + 1) [] c).map fun (text, c) =>
    (String.ofList text.reverse, c)

/-! ## block texts -/

/-- what becomes of the line ends at the end of a block text -/
inductive Chomping where
  | strip
  | clip
  | keep
  deriving DecidableEq, Repr

def chomping? : Char → Option Chomping
  | '-' => some .strip
  | '+' => some .keep
  | _ => none

def indentIndicator (c : Cursor) : Except Fault (Nat × Cursor) :=
  match c.rest with
  | ch :: _ =>
    if ch == '0' then .error .badBlockHeader
    else if '1' ≤ ch && ch ≤ '9' then .ok (ch.toNat - 48, c.next)
    else .ok (0, c)
  | [] => .ok (0, c)

def blockIndicators (c : Cursor) : Except Fault (Chomping × Nat × Cursor) :=
  match c.rest.head?.bind chomping? with
  | some ch => (indentIndicator c.next).map fun (k, c) => (ch, k, c)
  | none => do
    let (k, c) ← indentIndicator c
    match c.rest.head?.bind chomping? with
    | some ch => .ok (ch, k, c.next)
    | none => .ok (.clip, k, c)

def blockHeadEnd (c : Cursor) : Except Fault Cursor :=
  let c := c.skipWhile isBlank
  let c := if c.rest.head? == some '#' then c.skipWhile (!isBreak ·) else c
  match c.rest with
  | [] => .ok c
  | ch :: _ => if isBreak ch then .ok c.next else .error .badBlockHeader

/-- empty lines at the head, with their indentation; `indent` is zero while it is unknown, and
`widest` the widest indentation so far -/
def emptyLines (indent : Nat) :
    (n : Nat) → (widest : Nat) → (breaks : List Char) → Cursor →
      Except Fault (Nat × List Char × Cursor)
  | 0, widest, breaks, c => .ok (widest, breaks, c)
  | n + 1, widest, breaks, c =>
    let spaces := (c.rest.takeWhile (· == ' ')).length
    let c := c.advance (if indent = 0 then spaces else min spaces (indent - c.column))
    let widest := max widest c.column
    match c.rest with
    | [] => .ok (widest, breaks, c)
    | ch :: _ =>
      if ch == '\t' && (indent == 0 || c.column < indent) then .error .tabIndentation
      else if isBreak ch then emptyLines indent n widest (breaks ++ [ch]) c.next
      else .ok (widest, breaks, c)

/-- how the line end `first` before a line, with empty lines behind it or not, is read in a folded
block: a single line end between two lines without leading blanks is a space -/
def foldedBreak (first : List Char) (noOthers leadingBlank trailingBlank : Bool) : List Char :=
  if first == ['\n'] && !leadingBlank && !trailingBlank then (if noOthers then [' '] else [])
  else first

/-- the lines of a block text from a line start on.  `first` and `others` are the line ends
before it, `text` what is read before them, last character first, and `leadingBlank` whether the
line before began with a blank. -/
def blockLines (literal : Bool) (indent : Nat) :
    (n : Nat) → (text first others : List Char) → (leadingBlank : Bool) → Cursor →
      Except Fault (List Char × List Char × List Char × Cursor)
  | 0, text, first, others, _, c => .ok (text, first, others, c)
  | n + 1, text, first, others, leadingBlank, c =>
    if c.column ≠ indent ∨ c.rest.isEmpty then .ok (text, first, others, c)
    else do
      let blank := (c.rest.head?.map isBlank).getD false
      let lead := if literal then first else foldedBreak first others.isEmpty leadingBlank blank
      let line := c.rest.takeWhile (!isBreak ·)
      let c := c.advance line.length
      let text := line.reverse ++ (others.reverse ++ (lead.reverse ++ text))
      let first := (c.rest.take 1)
      let (_, others, c) ← emptyLines indent (c.rest.length + 1) 0 [] c.next
      blockLines literal indent n text first others blank c

/-- a block text behind its opening character, in a collection whose entries stand at column
`parent`, and the cursor behind it -/
def blockText (literal : Bool) (parent : Option Nat) (c : Cursor) :
    Except Fault (String × Cursor) := do
  let least := match parent with
    | none => 0
    | some column => column + 1
  let (chomping, k, c) ← blockIndicators c
  let c ← blockHeadEnd c
  let given := if k = 0 then 0 else (parent.getD 0) + k
  let (widest, others, c) ← emptyLines given (c.rest.length + 1) 0 [] c
  let indent := if given = 0 then max (max widest least) 1 else given
  let (text, first, others, c) ←
    blockLines literal indent (c.rest.length + 1) [] [] others false c
  let tail := match chomping with
    | .strip => []
    | .clip => first
    | .keep => first ++ others
  return (String.ofList (text.reverse ++ tail), c)

end StagedLoad.Data.Yaml
