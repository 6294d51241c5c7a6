import StagedLoad.Data.Yaml.Token

/-!
# From a text to its tokens

Indentation and the place of colons say where block collections begin and end, and which values
are keys.  A `Layout` is the state half-way through a text: the cursor, the columns of the open
block collections, for each open flow collection (and for the block level under them) the value
that may still turn out to be a key, and the tokens so far.  A value turns out to be a key when a
colon follows it on its line within 1024 characters; the key token then goes in front of it.
`Token.ofText` runs through a whole text.
-/

namespace StagedLoad.Data.Yaml

/-- a value that a colon may turn into a key -/
structure KeyMark where
  /-- nothing but a key can stand at its place -/
  required : Bool
  number : Nat
  index : Nat
  line : Nat
  column : Nat

/-- the state half-way through a text -/
structure Layout where
  cursor : Cursor
  /-- the columns of the open block collections, innermost first -/
  indents : List Nat := []
  keyAllowed : Bool := true
  /-- the innermost flow level first, the block level last -/
  marks : List (Option KeyMark) := [none]
  /-- last token first -/
  tokens : List Token := []

namespace Layout

def inFlow (l : Layout) : Bool := l.marks.length > 1

def emit (l : Layout) (t : Token) : Layout := { l with tokens := t :: l.tokens }

/-- put a token behind the first `number` tokens -/
def emitAt (l : Layout) (number : Nat) (t : Token) : Layout :=
  { l with tokens := l.tokens.insertIdx (l.tokens.length - number) t }

def move (l : Layout) (c : Cursor) : Layout := { l with cursor := c }

/-! ## block collections -/

def openBlock (l : Layout) (column number : Nat) (t : Token) : Layout :=
  if l.inFlow then l
  else if (l.indents.head?.map fun outer => decide (outer < column)).getD true then
    { l.emitAt number t with indents := column :: l.indents }
  else l

def closeBlocks (l : Layout) (p : Nat → Bool) : Layout :=
  if l.inFlow then l
  else
    let closed := (l.indents.takeWhile p).length
    { l with
      indents := l.indents.drop closed
      tokens := List.replicate closed .blockEnd ++ l.tokens }

/-! ## values that may be keys -/

def dropMark (l : Layout) : Except Fault Layout :=
  match l.marks with
  | some k :: ms => if k.required then .error .valueExpected else .ok { l with marks := none :: ms }
  | _ => .ok l

def saveMark (l : Layout) : Except Fault Layout :=
  if l.keyAllowed then
    l.dropMark.map fun l =>
      let mark : KeyMark :=
        { required := !l.inFlow && l.indents.head? == some l.cursor.column
          number := l.tokens.length
          index := l.cursor.index
          line := l.cursor.line
          column := l.cursor.column }
      { l with marks := some mark :: l.marks.tail }
  else .ok l

/-- a possible key that is on an earlier line or too far back is none -/
def freshMark (c : Cursor) : Option KeyMark → Except Fault (Option KeyMark)
  | none => .ok none
  | some k =>
    if k.line < c.line || k.index + 1024 < c.index then
      if k.required then .error .valueExpected else .ok none
    else .ok (some k)

def freshMarks (l : Layout) : Except Fault Layout :=
  (l.marks.mapM (freshMark l.cursor)).map fun ms => { l with marks := ms }

/-! ## between tokens -/

/-- go to the next token, over blanks, comments and line ends.  A tab counts as a blank only
where no key may start.  `n` is at least the number of characters left. -/
def skipGaps : (n : Nat) → Layout → Layout
  | 0, l => l
  | n + 1, l =>
    let c := l.cursor
    let c := if c.column == 0 && (c.rest.head?.map isByteOrderMark).getD false then c.next else c
    let tabs := l.inFlow || !l.keyAllowed
    let c := c.skipWhile fun ch => ch == ' ' || (tabs && ch == '\t')
    let c := if c.rest.head? == some '#' then c.skipWhile (!isBreak ·) else c
    if (c.rest.head?.map isBreak).getD false then
      skipGaps n { l with cursor := c.next, keyAllowed := l.keyAllowed || !l.inFlow }
    else { l with cursor := c }

/-! ## single tokens -/

def indicator (l : Layout) (t : Token) : Layout := (l.move l.cursor.next).emit t

/-- an opening bracket: the flow collection may be a key, and one may start in it -/
def openFlow (l : Layout) (t : Token) : Except Fault Layout :=
  l.saveMark.map fun l => ({ l with keyAllowed := true, marks := none :: l.marks }).indicator t

def closeFlow (l : Layout) (t : Token) : Except Fault Layout :=
  l.dropMark.map fun l =>
    let marks := if l.inFlow then l.marks.tail else l.marks
    ({ l with keyAllowed := false, marks := marks }).indicator t

def flowComma (l : Layout) : Except Fault Layout :=
  l.dropMark.map fun l => ({ l with keyAllowed := true }).indicator .flowEntry

def blockHyphen (l : Layout) : Except Fault Layout :=
  if !l.inFlow && !l.keyAllowed then .error .entryNotAllowed
  else
    let l := l.openBlock l.cursor.column l.tokens.length .blockSequenceStart
    l.dropMark.map fun l => ({ l with keyAllowed := true }).indicator .blockEntry

def questionMark (l : Layout) : Except Fault Layout :=
  if !l.inFlow && !l.keyAllowed then .error .keyNotAllowed
  else
    let l := l.openBlock l.cursor.column l.tokens.length .blockMappingStart
    l.dropMark.map fun l => ({ l with keyAllowed := !l.inFlow }).indicator .key

/-- the colon before a value: the possible key of the level becomes a key -/
def colon (l : Layout) : Except Fault Layout :=
  match l.marks with
  | some k :: ms =>
    let l := (l.emitAt k.number .key).openBlock k.column k.number .blockMappingStart
    .ok (({ l with keyAllowed := false, marks := none :: ms }).indicator .value)
  | _ =>
    if !l.inFlow && !l.keyAllowed then .error .valueNotAllowed
    else
      let l := l.openBlock l.cursor.column l.tokens.length .blockMappingStart
      .ok (({ l with keyAllowed := !l.inFlow }).indicator .value)

def keyLike (l : Layout) (read : Cursor → Except Fault (Token × Cursor)) : Except Fault Layout := do
  let l ← l.saveMark
  let (t, c) ← read l.cursor
  return ({ l with cursor := c, keyAllowed := false }).emit t

def blockTextToken (l : Layout) (literal : Bool) : Except Fault Layout := do
  let l ← l.dropMark
  let (s, c) ← blockText literal l.indents.head? l.cursor.next
  return ({ l with cursor := c, keyAllowed := true }).emit
    (.text (if literal then .literal else .folded) s)

def quotedTextToken (l : Layout) (single : Bool) : Except Fault Layout :=
  l.keyLike fun c => (quotedText single c.next).map fun (s, c) =>
    (.text (if single then .singleQuoted else .doubleQuoted) s, c)

/-- a plain text; behind one that ended at a line end a key may start -/
def plainTextToken (l : Layout) : Except Fault Layout := do
  let l ← l.saveMark
  let limit := match l.indents.head? with
    | none => 0
    | some column => column + 1
  let (s, broken, c) ← plainText l.inFlow limit l.cursor
  return ({ l with cursor := c, keyAllowed := broken }).emit (.text .plain s)

/-- a directive or a document mark: everything open is closed -/
def documentToken (l : Layout) (read : Cursor → Except Fault (Token × Cursor)) :
    Except Fault Layout := do
  let l ← (l.closeBlocks fun _ => true).dropMark
  let (t, c) ← read l.cursor
  return ({ l with cursor := c, keyAllowed := false }).emit t

def startsPlain (inFlow : Bool) (c : Char) (cs : List Char) : Bool :=
  if c == '-' then !(cs.head?.map isBlank).getD false
  else if c == '?' || c == ':' then !inFlow && !startsGap cs
  else !",[]\x7b\x7d#&*!|>'\"%@`".toList.contains c

def token (l : Layout) (ch : Char) (cs : List Char) : Except Fault Layout :=
  if l.cursor.column == 0 && ch == '%' then l.documentToken fun c => directiveToken c.next
  else if l.cursor.atMark then
    l.documentToken fun c =>
      .ok (if ch == '-' then .documentStart else .documentEnd, c.advance 3)
  else match ch with
  | '[' => l.openFlow .flowSequenceStart
  | '\x7b' => l.openFlow .flowMappingStart
  | ']' => l.closeFlow .flowSequenceEnd
  | '\x7d' => l.closeFlow .flowMappingEnd
  | ',' => l.flowComma
  | _ =>
    if ch == '-' && startsGap cs then l.blockHyphen
    else if ch == '?' && (l.inFlow || startsGap cs) then l.questionMark
    else if ch == ':' && (l.inFlow || startsGap cs) then l.colon
    else match ch with
    | '*' => l.keyLike fun c => (anchorName c.next).map fun (name, c) => (.reference name, c)
    | '&' => l.keyLike fun c => (anchorName c.next).map fun (name, c) => (.anchor name, c)
    | '!' => l.keyLike (tagToken l.inFlow)
    | '\'' => l.quotedTextToken true
    | '"' => l.quotedTextToken false
    | _ =>
      if ch == '|' && !l.inFlow then l.blockTextToken true
      else if ch == '>' && !l.inFlow then l.blockTextToken false
      else if startsPlain l.inFlow ch cs then l.plainTextToken
      else .error (.noToken ch)

/-- all tokens from here on; `n` is greater than the number of characters left -/
def run : (n : Nat) → Layout → Except Fault (List Token)
  | 0, l => .ok l.tokens.reverse
  | n + 1, l => do
    let l ← (l.skipGaps (l.cursor.rest.length + 1)).freshMarks
    let l := l.closeBlocks fun column => l.cursor.column < column
    match l.cursor.rest with
    | [] =>
      let l ← (l.closeBlocks fun _ => true).dropMark
      return l.tokens.reverse
    | ch :: cs => run n (← l.token ch cs)

end Layout

def unreadable? (cs : List Char) : Option Char := cs.find? (!isReadable ·)

/-- the tokens of a text; a byte order mark at its head is no part of it -/
def Token.ofText (s : String) : Except Fault (List Token) :=
  let cs := s.toList
  match unreadable? cs with
  | some c => .error (.character c)
  | none =>
    let cs := match cs with
      | [] => []
      | c :: rest => if isByteOrderMark c then rest else cs
    let cs := unifyBreaks cs
    Layout.run (cs.length + 1) { cursor := { rest := cs } }

end StagedLoad.Data.Yaml
