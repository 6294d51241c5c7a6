import StagedLoad.Data.Yaml.Layout
import StagedLoad.Roster

/-!
# YAML documents

A document is a tree of text values, sequences and mappings, in which an alias stands for the
value that carries its anchor.  `Node.ofTokens` builds the tree: a token decides what begins at
its place, and a value that is nowhere written is an empty plain text.

Anchors are numbered: a new anchor takes the number of anchor names known before it, and a
repeated name takes the next number too, so that numbers can be taken twice.  An alias stands for
the last value of its number in the document (`Node.anchored?`).
-/

namespace StagedLoad.Data.Yaml

inductive Node where
  | text (anchor : Option Nat) (style : Style) (tag : Option String) (s : String)
  | sequence (anchor : Option Nat) (items : List Node)
  | mapping (anchor : Option Nat) (entries : List (Node × Node))
  | reference (number : Nat)
  deriving Repr, Inhabited

namespace Node

def unwritten : Node := .text none .plain none ""

/-! ## anchors -/

mutual

/-- the numbered values of a tree, each before the values inside it -/
def anchors : Node → List (Nat × Node)
  | .text (some n) style tag s => [(n, .text (some n) style tag s)]
  | .text none _ _ _ => []
  | .sequence (some n) items => (n, .sequence (some n) items) :: anchorsOfItems items
  | .sequence none items => anchorsOfItems items
  | .mapping (some n) entries => (n, .mapping (some n) entries) :: anchorsOfEntries entries
  | .mapping none entries => anchorsOfEntries entries
  | .reference _ => []

def anchorsOfItems : List Node → List (Nat × Node)
  | [] => []
  | v :: vs => anchors v ++ anchorsOfItems vs

def anchorsOfEntries : List (Node × Node) → List (Nat × Node)
  | [] => []
  | (k, v) :: es => anchors k ++ anchors v ++ anchorsOfEntries es

end

def anchored? (root : Node) (number : Nat) : Option Node :=
  root.anchors.reverse.lookup number

/-! ## building -/

/-- the tokens ahead, and the numbers of the anchor names so far -/
structure Ahead where
  tokens : List Token
  names : Keyed Nat := ∅

structure Properties where
  anchor : Option String := none
  tag : Option (String × String) := none

def properties : List Token → Properties × List Token
  | .anchor a :: .tag h s :: ts => ({ anchor := a, tag := (h, s) }, ts)
  | .tag h s :: .anchor a :: ts => ({ anchor := a, tag := (h, s) }, ts)
  | .anchor a :: ts => ({ anchor := a }, ts)
  | .tag h s :: ts => ({ tag := (h, s) }, ts)
  | ts => ({}, ts)

/-- the full tag, given what the handles of the document stand for -/
def resolveTag (handles : List (String × String)) : Option (String × String) →
    Except Fault (Option String)
  | none => .ok none
  | some (handle, suffix) =>
    if handle.isEmpty then .ok (some suffix)
    else match handles.lookup handle with
      | some stands => .ok (some (stands ++ suffix))
      | none => .error .unknownTagHandle

def number (names : Keyed Nat) : Option String → Option Nat × Keyed Nat
  | none => (none, names)
  | some a => (some names.size, names.insert a names.size)

def Ahead.head? (a : Ahead) : Option Token := a.tokens.head?

def Ahead.tail (a : Ahead) : Ahead := { a with tokens := a.tokens.tail }

mutual

/-- the value ahead.  Block collections can begin only where `block` holds, and a sequence without
indentation of its own only where `hyphens` holds.  `n` bounds the nesting, here and below. -/
def value (handles : List (String × String)) (block hyphens : Bool) :
    (n : Nat) → Ahead → Except Fault (Node × Ahead)
  | 0, _ => .error .contentExpected
  | n + 1, a => do
    let (props, ts) := properties a.tokens
    let bare := props.anchor.isNone && props.tag.isNone
    let tag ← resolveTag handles props.tag
    let (anchor, names) := number a.names props.anchor
    let a := { a with names := names }
    match ts with
    | .reference name :: rest =>
      if bare then
        match a.names.get? name with
        | some k => return (.reference k, { a with tokens := rest })
        | none => .error (.unknownAnchor name)
      else return (.text anchor .plain tag "", { a with tokens := ts })
    | .text style s :: rest =>
      let tag := if tag = some "!" then none else tag
      return (.text anchor style tag s, { a with tokens := rest })
    | .flowSequenceStart :: rest =>
      let (items, a) ← flowItems handles true n { a with tokens := rest }
      return (.sequence anchor items, a)
    | .flowMappingStart :: rest =>
      let (entries, a) ← flowEntries handles true n { a with tokens := rest }
      return (.mapping anchor entries, a)
    | t :: rest =>
      if t = .blockEntry && hyphens then
        let (items, a) ← bareItems handles n { a with tokens := ts }
        return (.sequence anchor items, a)
      else if t = .blockSequenceStart && block then
        let (items, a) ← blockItems handles n { a with tokens := rest }
        return (.sequence anchor items, a)
      else if t = .blockMappingStart && block then
        let (entries, a) ← blockEntries handles n { a with tokens := rest }
        return (.mapping anchor entries, a)
      else if bare then .error .contentExpected
      else return (.text anchor .plain tag "", { a with tokens := ts })
    | [] =>
      if bare then .error .contentExpected
      else return (.text anchor .plain tag "", { a with tokens := [] })

def valueUnless (handles : List (String × String)) (block hyphens : Bool) (ends : List Token) :
    (n : Nat) → Ahead → Except Fault (Node × Ahead)
  | 0, _ => .error .contentExpected
  | n + 1, a =>
    if (a.head?.map ends.contains).getD true then .ok (unwritten, a)
    else value handles block hyphens n a

def blockItems (handles : List (String × String)) :
    (n : Nat) → Ahead → Except Fault (List Node × Ahead)
  | 0, _ => .error .contentExpected
  | n + 1, a =>
    match a.head? with
    | some .blockEntry => do
      let (v, a) ← valueUnless handles true false [.blockEntry, .blockEnd] n a.tail
      let (vs, a) ← blockItems handles n a
      return (v :: vs, a)
    | some .blockEnd => .ok ([], a.tail)
    | _ => .error .entryExpected

/-- the entries of a block sequence that has no indentation of its own -/
def bareItems (handles : List (String × String)) :
    (n : Nat) → Ahead → Except Fault (List Node × Ahead)
  | 0, _ => .error .contentExpected
  | n + 1, a =>
    match a.head? with
    | some .blockEntry => do
      let (v, a) ← valueUnless handles true false [.blockEntry, .key, .value, .blockEnd] n a.tail
      let (vs, a) ← bareItems handles n a
      return (v :: vs, a)
    | _ => .ok ([], a)

def blockEntries (handles : List (String × String)) :
    (n : Nat) → Ahead → Except Fault (List (Node × Node) × Ahead)
  | 0, _ => .error .contentExpected
  | n + 1, a =>
    match a.head? with
    | some .key => do
      let (k, a) ← valueUnless handles true true [.key, .value, .blockEnd] n a.tail
      let (v, a) ←
        if a.head? = some .value then
          valueUnless handles true true [.key, .value, .blockEnd] n a.tail
        else pure (unwritten, a)
      let (es, a) ← blockEntries handles n a
      return ((k, v) :: es, a)
    | some .blockEnd => .ok ([], a.tail)
    | _ => .error .keyExpected

def flowValue (handles : List (String × String)) (close : Token) :
    (n : Nat) → Ahead → Except Fault (Node × Ahead)
  | 0, _ => .error .contentExpected
  | n + 1, a =>
    if a.head? = some .value then
      valueUnless handles false false [.flowEntry, close] n a.tail
    else .ok (unwritten, a)

/-- the entries of a flow sequence up to its end, `first` if none is read yet.  An entry may be a
single pair.  Behind a question mark without a key the next token is passed over. -/
def flowItems (handles : List (String × String)) (first : Bool) :
    (n : Nat) → Ahead → Except Fault (List Node × Ahead)
  | 0, _ => .error .contentExpected
  | n + 1, a =>
    if a.head? = some .flowSequenceEnd then .ok ([], a.tail)
    else if !first && a.head? != some .flowEntry then .error .entryExpected
    else
      let a := if first then a else a.tail
      match a.head? with
      | some .flowSequenceEnd => .ok ([], a.tail)
      | some .key => do
        let a := a.tail
        let (k, a) ←
          if (a.head?.map [Token.value, .flowEntry, .flowSequenceEnd].contains).getD true then
            pure (unwritten, a.tail)
          else value handles false false n a
        let (v, a) ← flowValue handles .flowSequenceEnd n a
        let (vs, a) ← flowItems handles false n a
        return (.mapping none [(k, v)] :: vs, a)
      | _ => do
        let (v, a) ← value handles false false n a
        let (vs, a) ← flowItems handles false n a
        return (v :: vs, a)

/-- the entries of a flow mapping up to its end, `first` if none is read yet.  An entry without a
colon is a key without a value. -/
def flowEntries (handles : List (String × String)) (first : Bool) :
    (n : Nat) → Ahead → Except Fault (List (Node × Node) × Ahead)
  | 0, _ => .error .contentExpected
  | n + 1, a =>
    if a.head? = some .flowMappingEnd then .ok ([], a.tail)
    else if !first && a.head? != some .flowEntry then .error .entryExpected
    else
      let a := if first then a else a.tail
      match a.head? with
      | some .flowMappingEnd => .ok ([], a.tail)
      | some .key => do
        let (k, a) ←
          valueUnless handles false false [.value, .flowEntry, .flowMappingEnd] n a.tail
        let (v, a) ← flowValue handles .flowMappingEnd n a
        let (es, a) ← flowEntries handles false n a
        return ((k, v) :: es, a)
      | _ => do
        let (k, a) ← value handles false false n a
        let (es, a) ← flowEntries handles false n a
        return ((k, unwritten) :: es, a)

end

/-! ## documents -/

def commonHandles : List (String × String) := [("!", "!"), ("!!", "tag:yaml.org,2002:")]

/-- the directives at the head: the handles they declare, whether a version is among them, and
what follows.  A version or a handle is declared once at most, and the versions are 1.1 and
1.2. -/
def directives (versioned : Bool) (handles : List (String × String)) :
    List Token → Except Fault (List (String × String) × List Token)
  | .version major minor :: ts =>
    if versioned || major ≠ 1 || (minor ≠ 1 && minor ≠ 2) then .error .badDirective
    else directives true handles ts
  | .handle name stands :: ts =>
    if (handles.lookup name).isSome then .error .badDirective
    else directives versioned (handles ++ [(name, stands)]) ts
  | ts => .ok (handles, ts)

/-- the value of a document and the tokens behind it; `explicitly` if the document begins with a
mark, in which case it may be empty -/
def document (explicitly : Bool) (handles : List (String × String)) (ts : List Token) :
    Except Fault (Node × List Token) :=
  let a : Ahead := { tokens := ts }
  let ends := match ts with
    | [] => true
    | .version .. :: _ => true
    | .handle .. :: _ => true
    | .documentStart :: _ => true
    | .documentEnd :: _ => true
    | _ => false
  if explicitly && ends then .ok (unwritten, ts)
  else (value (handles ++ commonHandles) true false (3 * ts.length + 3) a).map fun (v, a) =>
    (v, a.tokens)

def endOfStream (ts : List Token) : Except Fault Unit :=
  if (ts.dropWhile (· == .documentEnd)).isEmpty then .ok () else .error .secondDocument

def ofTokens (ts : List Token) : Except Fault (Option Node) := do
  let (handles, rest) ← directives false [] ts
  match rest with
  | .documentStart :: rest =>
    let (v, rest) ← document true handles rest
    endOfStream rest
    return some v
  | [] => if ts.isEmpty then return none else .error .badDirective
  | _ =>
    if rest.length < ts.length then .error .badDirective
    else
      let (v, rest) ← document false handles rest
      endOfStream rest
      return some v

def ofText (s : String) : Except Fault (Option Node) := Token.ofText s >>= ofTokens

end Node

end StagedLoad.Data.Yaml
