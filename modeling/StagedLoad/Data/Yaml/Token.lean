import StagedLoad.Data.Yaml.Scalar

/-!
# Tokens of a YAML text

The tokens, and how those that name something are read: anchors and aliases, tags, directives.
-/

namespace StagedLoad.Data.Yaml

open StagedLoad.Text

inductive Token where
  | version (major minor : Nat)
  | handle (name stands : String)
  | documentStart
  | documentEnd
  | blockSequenceStart
  | blockMappingStart
  | blockEnd
  | flowSequenceStart
  | flowSequenceEnd
  | flowMappingStart
  | flowMappingEnd
  | blockEntry
  | flowEntry
  | key
  | value
  | reference (name : String)
  | anchor (name : String)
  | tag (handle suffix : String)
  | text (style : Style) (text : String)
  deriving DecidableEq, Repr

/-! ## anchors and aliases -/

def anchorName (c : Cursor) : Except Fault (String × Cursor) :=
  let name := c.rest.takeWhile isWordChar
  let c := c.advance name.length
  let ends := startsGap c.rest || (c.rest.head?.map ("?:,]\x7d%@`".toList.contains ·)).getD false
  if name.isEmpty || !ends then .error .badAnchor else .ok (String.ofList name, c)

/-! ## tags -/

/-- the code points that octets from a percent-escape onward encode; octets that encode none are
taken one by one -/
def decodeOctets : List Nat → List Char
  | [] => []
  | [a] => [Char.ofNat a]
  | [a, b] => [Char.ofNat ((a % 32) * 64 + b % 64)]
  | [a, b, d] => [Char.ofNat ((a % 16) * 4096 + (b % 64) * 64 + d % 64)]
  | [a, b, d, e] =>
    [Char.ofNat ((a % 8) * 262144 + (b % 64) * 4096 + (d % 64) * 64 + e % 64)]
  | octets => octets.map Char.ofNat

def octetWidth (n : Nat) : Nat :=
  if n < 0x80 then 1
  else if n < 0xC0 then 0
  else if n < 0xE0 then 2
  else if n < 0xF0 then 3
  else if n < 0xF8 then 4
  else 0

def percentOctet (cs : List Char) : Except Fault (Nat × List Char) :=
  match cs with
  | '%' :: a :: b :: cs =>
    match hexNumberAfter? 0 [a, b] with
    | some n => .ok (n, cs)
    | none => .error .badTag
  | _ => .error .badTag

def trailingOctets : (k : Nat) → List Char → Except Fault (List Nat × List Char)
  | 0, cs => .ok ([], cs)
  | k + 1, cs => do
    let (n, cs) ← percentOctet cs
    if n / 64 ≠ 2 then .error .badTag
    else do
      let (ns, cs) ← trailingOctets k cs
      return (n :: ns, cs)

def percentChar (cs : List Char) : Except Fault (List Char × List Char) := do
  let (n, cs) ← percentOctet cs
  if octetWidth n = 0 then .error .badTag
  else do
    let (ns, cs) ← trailingOctets (octetWidth n - 1) cs
    return (decodeOctets (n :: ns), cs)

/-- a character of a tag; in a full address also commas and brackets -/
def isTagChar (address : Bool) (c : Char) : Bool :=
  isWordChar c || ";/?:@&=+$.!~*'()".toList.contains c || (address && ",[]".toList.contains c)

/-- the characters of a tag from the head on, and what follows; `n` is at least the number of
characters left -/
def tagChars (address : Bool) : (n : Nat) → List Char → Except Fault (List Char × List Char)
  | 0, cs => .ok ([], cs)
  | n + 1, cs =>
    match cs with
    | [] => .ok ([], [])
    | c :: rest =>
      if c == '%' then do
        let (t, rest) ← percentChar cs
        let (ts, rest) ← tagChars address n rest
        return (t ++ ts, rest)
      else if isTagChar address c then do
        let (ts, rest) ← tagChars address n rest
        return (c :: ts, rest)
      else .ok ([], cs)

def tagText (address : Bool) (c : Cursor) : Except Fault (List Char × Cursor) := do
  let (text, rest) ← tagChars address c.rest.length c.rest
  return (text, c.advance (c.rest.length - rest.length))

/-- a tag handle at the head: an exclamation mark, a word, and perhaps another mark -/
def tagHandle (c : Cursor) : Except Fault (List Char × Cursor) :=
  match c.rest with
  | '!' :: cs =>
    let word := cs.takeWhile isWordChar
    let c := c.advance (word.length + 1)
    if c.rest.head? == some '!' then .ok ('!' :: word ++ ['!'], c.next) else .ok ('!' :: word, c)
  | _ => .error .badTag

/-- the gap that has to follow a tag; in a flow collection a comma may follow too -/
def tagEnd (inFlow : Bool) (c : Cursor) : Except Fault Cursor :=
  if startsGap c.rest || (inFlow && c.rest.head? == some ',') then .ok c else .error .badTag

/-- a tag, and the cursor behind it: an address between angle brackets, a suffix behind a handle
with two marks, a local name behind one mark, or the mark alone -/
def tagToken (inFlow : Bool) (c : Cursor) : Except Fault (Token × Cursor) :=
  match c.rest with
  | '!' :: '<' :: _ => do
    let (address, c) ← tagText true (c.advance 2)
    if address.isEmpty || c.rest.head? != some '>' then .error .badTag
    else do
      let c ← tagEnd inFlow c.next
      return (.tag "" (String.ofList address), c)
  | _ => do
    let (handle, c) ← tagHandle c
    let named := handle.length > 1 && handle.getLast? == some '!'
    let (more, c) ← tagText false c
    let c ← tagEnd inFlow c
    if named then
      if more.isEmpty then .error .badTag
      else return (.tag (String.ofList handle) (String.ofList more), c)
    else if handle.length = 1 && more.isEmpty then return (.tag "" "!", c)
    else return (.tag "!" (String.ofList (handle.drop 1 ++ more)), c)

/-! ## directives -/

def versionNumber (c : Cursor) : Except Fault (Nat × Cursor) :=
  let digits := c.rest.takeWhile fun ch => '0' ≤ ch && ch ≤ '9'
  if digits.isEmpty || 9 < digits.length then .error .badDirective
  else .ok (digits.foldl (fun n ch => 10 * n + (ch.toNat - 48)) 0, c.advance digits.length)

def versionToken (c : Cursor) : Except Fault (Token × Cursor) := do
  let (major, c) ← versionNumber (c.skipWhile isBlank)
  if c.rest.head? != some '.' then .error .badDirective
  else do
    let (minor, c) ← versionNumber c.next
    return (.version major minor, c)

def handleToken (c : Cursor) : Except Fault (Token × Cursor) := do
  let (name, c) ← tagHandle (c.skipWhile isBlank)
  if name ≠ ['!'] && !(name.length > 1 && name.getLast? == some '!') then .error .badDirective
  else if !(c.rest.head?.map isBlank).getD false then .error .badDirective
  else do
    let (stands, c) ← tagText true (c.skipWhile isBlank)
    if stands.isEmpty || !startsGap c.rest then .error .badDirective
    else return (.handle (String.ofList name) (String.ofList stands), c)

def directiveToken (c : Cursor) : Except Fault (Token × Cursor) := do
  let name := c.rest.takeWhile isWordChar
  let c := c.advance name.length
  if name.isEmpty || !startsGap c.rest then .error .badDirective
  else do
    let (token, c) ←
      if name = "YAML".toList then versionToken c
      else if name = "TAG".toList then handleToken c
      else .error .badDirective
    let c := c.skipWhile isBlank
    let c := if c.rest.head? == some '#' then c.skipWhile (!isBreak ·) else c
    match c.rest with
    | [] => return (token, c)
    | ch :: _ => if isBreak ch then return (token, c.next) else .error .badDirective

end StagedLoad.Data.Yaml
