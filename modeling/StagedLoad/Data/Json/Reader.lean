import StagedLoad.Data.Json.Value
import StagedLoad.Text.Hex

/-!
# Reading JSON

`Json.read?` takes a whole text: one value with white space around it.  Each part of the grammar
is a function from the characters ahead to the value found and the characters behind it; nesting
is bounded by a number of levels, and a text has no more levels than characters.
-/

namespace StagedLoad.Data.Json

open StagedLoad.Text

def skipSpace (cs : List Char) : List Char :=
  cs.dropWhile fun c => c == ' ' || c == '\n' || c == '\t' || c == '\r'

/-! ## strings -/

/-- one piece of a string: a character, or half of a surrogate pair -/
inductive Piece where
  | char (c : Char)
  | half (n : Nat)
  deriving DecidableEq, Repr

def Piece.ofCode (n : Nat) : Piece :=
  if 0xD800 ≤ n ∧ n < 0xE000 then .half n else .char (Char.ofNat n)

def escaped? : Char → Option Char
  | '"' => some '"'
  | '\\' => some '\\'
  | '/' => some '/'
  | 'b' => some '\x08'
  | 'f' => some '\x0c'
  | 'n' => some '\n'
  | 'r' => some '\r'
  | 't' => some '\t'
  | _ => none

/-- the pieces of a string behind its opening quote, and what follows its closing quote -/
def pieces : List Char → Option (List Piece × List Char)
  | [] => none
  | '"' :: cs => some ([], cs)
  | '\\' :: 'u' :: a :: b :: c :: d :: cs => do
    let n ← hexNumberAfter? 0 [a, b, c, d]
    let (ps, rest) ← pieces cs
    return (.ofCode n :: ps, rest)
  | '\\' :: e :: cs => do
    let c ← escaped? e
    let (ps, rest) ← pieces cs
    return (.char c :: ps, rest)
  | c :: cs =>
    if c.toNat < 0x20 then none
    else do
      let (ps, rest) ← pieces cs
      return (.char c :: ps, rest)

/-- the text of the pieces of a string: a high half must be followed at once by a low half, and
the two are one character -/
def text? : List Piece → Option (List Char)
  | [] => some []
  | .char c :: ps => (text? ps).map (c :: ·)
  | .half h :: .half l :: ps =>
    if h < 0xDC00 ∧ 0xDC00 ≤ l then
      (text? ps).map (Char.ofNat (0x10000 + (h - 0xD800) * 0x400 + (l - 0xDC00)) :: ·)
    else none
  | .half _ :: _ => none

/-- a string behind its opening quote: its text if it has one, and what follows -/
def string? (cs : List Char) : Option (Option String × List Char) :=
  (pieces cs).map fun (ps, rest) => ((text? ps).map String.ofList, rest)

/-! ## numbers -/

def isDigit (c : Char) : Bool := '0' ≤ c && c ≤ '9'

def digits? (cs : List Char) : Option (List Char) :=
  if (cs.takeWhile isDigit).isEmpty then none else some (cs.dropWhile isDigit)

def whole? : List Char → Option (List Char)
  | '0' :: cs => some cs
  | cs => digits? cs

def fraction? : List Char → Option (List Char)
  | '.' :: cs => digits? cs
  | cs => some cs

def skipSign : List Char → List Char
  | '+' :: cs => cs
  | '-' :: cs => cs
  | cs => cs

def exponent? : List Char → Option (List Char)
  | 'e' :: cs => digits? (skipSign cs)
  | 'E' :: cs => digits? (skipSign cs)
  | cs => some cs

def number? (cs : List Char) : Option (List Char) := do
  let cs := match cs with
    | '-' :: cs => cs
    | cs => cs
  exponent? (← fraction? (← whole? cs))

/-! ## values -/

mutual

/-- a value of at most `levels` levels -/
def value? : (levels : Nat) → List Char → Option (Json × List Char)
  | 0, _ => none
  | levels + 1, cs =>
    match skipSpace cs with
    | 'n' :: 'u' :: 'l' :: 'l' :: cs => some (.null, cs)
    | 't' :: 'r' :: 'u' :: 'e' :: cs => some (.flag true, cs)
    | 'f' :: 'a' :: 'l' :: 's' :: 'e' :: cs => some (.flag false, cs)
    | '"' :: cs => (string? cs).map fun (s, cs) => (.string s, cs)
    | '[' :: cs =>
      match skipSpace cs with
      | ']' :: cs => some (.array [], cs)
      | cs => (items? levels cs).map fun (items, cs) => (.array items, cs)
    | '\x7b' :: cs =>
      match skipSpace cs with
      | '\x7d' :: cs => some (.object [], cs)
      | cs => (entries? levels cs).map fun (entries, cs) => (.object entries, cs)
    | cs => (number? cs).map fun cs => (.number, cs)

def items? : (levels : Nat) → List Char → Option (List Json × List Char)
  | 0, _ => none
  | levels + 1, cs => do
    let (v, cs) ← value? levels cs
    match skipSpace cs with
    | ',' :: cs =>
      let (vs, cs) ← items? levels cs
      return (v :: vs, cs)
    | ']' :: cs => return ([v], cs)
    | _ => none

def entries? : (levels : Nat) → List Char → Option (List (Option String × Json) × List Char)
  | 0, _ => none
  | levels + 1, cs =>
    match skipSpace cs with
    | '"' :: cs => do
      let (key, cs) ← string? cs
      match skipSpace cs with
      | ':' :: cs =>
        let (v, cs) ← value? levels cs
        match skipSpace cs with
        | ',' :: cs =>
          let (es, cs) ← entries? levels cs
          return ((key, v) :: es, cs)
        | '\x7d' :: cs => return ([(key, v)], cs)
        | _ => none
      | _ => none
    | _ => none

end

def read? (s : String) : Option Json :=
  let cs := s.toList
  match value? (2 * cs.length + 1) cs with
  | some (v, rest) => if (skipSpace rest).isEmpty then some v else none
  | none => none

def readAs {α : Type} (reader : Json → Except Fault α) (s : String) : Except Fault α :=
  match read? s with
  | some v => reader v
  | none => .error .malformed

end StagedLoad.Data.Json
