/-!
# Characters of a YAML text

Which characters a text may hold, which of them end a line, and which are written as they are.
Line ends of all systems count as one character: `unifyBreaks` replaces carriage returns, with or
without a line feed, and next-line characters by line feeds.  The line and paragraph separators
end a line too, but stay what they are.
-/

namespace StagedLoad.Data.Yaml

def isBlank (c : Char) : Bool := c == ' ' || c == '\t'

/-- a character that ends a line, line ends being unified -/
def isBreak (c : Char) : Bool := c == '\n' || c.toNat == 0x2028 || c.toNat == 0x2029

def isGap (c : Char) : Bool := isBlank c || isBreak c

def startsGap : List Char → Bool
  | [] => true
  | c :: _ => isGap c

def isReadable (c : Char) : Bool :=
  let n := c.toNat
  n == 0x09 || n == 0x0A || n == 0x0D || (0x20 ≤ n && n ≤ 0x7E) || n == 0x85 ||
    (0xA0 ≤ n && n ≤ 0xD7FF) || (0xE000 ≤ n && n ≤ 0xFFFD) || 0x10000 ≤ n

def isByteOrderMark (c : Char) : Bool := c.toNat == 0xFEFF

/-- a character that is written as it is: a line feed, or anything visible -/
def isPlainlyWritten (c : Char) : Bool :=
  let n := c.toNat
  n == 0x0A || (0x20 ≤ n && n ≤ 0x7E) || (0xA0 ≤ n && n ≤ 0xD7FF) ||
    (0xE000 ≤ n && n ≤ 0xFFFD && n != 0xFEFF) || 0x10000 ≤ n

def isWordChar (c : Char) : Bool :=
  ('0' ≤ c && c ≤ '9') || ('a' ≤ c && c ≤ 'z') || ('A' ≤ c && c ≤ 'Z') || c == '_' || c == '-'

/-- a text with every line end but the separators as a line feed -/
def unifyBreaks : List Char → List Char
  | [] => []
  | '\r' :: '\n' :: cs => '\n' :: unifyBreaks cs
  | '\r' :: cs => '\n' :: unifyBreaks cs
  | c :: cs => (if c.toNat == 0x85 then '\n' else c) :: unifyBreaks cs

end StagedLoad.Data.Yaml
