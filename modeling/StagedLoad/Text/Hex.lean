/-!
# Hexadecimal digits

Digits are read in either case and written in lower or upper case, padded with zeros to a width.
-/

namespace StagedLoad.Text

def hexValue? (c : Char) : Option Nat :=
  if '0' ≤ c ∧ c ≤ '9' then some (c.toNat - 48)
  else if 'a' ≤ c ∧ c ≤ 'f' then some (c.toNat - 87)
  else if 'A' ≤ c ∧ c ≤ 'F' then some (c.toNat - 55)
  else none

/-- the number that a list of hexadecimal digits stands for, after the digits that make `n` -/
def hexNumberAfter? (n : Nat) : List Char → Option Nat
  | [] => some n
  | c :: cs => (hexValue? c).bind fun d => hexNumberAfter? (16 * n + d) cs

/-- the number written by `width` hexadecimal digits at the head of a text, and what follows -/
def hexTake? (width : Nat) (cs : List Char) : Option (Nat × List Char) :=
  if cs.length < width then none
  else (hexNumberAfter? 0 (cs.take width)).map (·, cs.drop width)

/-- `n` in lower-case hexadecimal digits, at least `width` of them -/
def hexLower (width n : Nat) : List Char :=
  let digits := Nat.toDigits 16 n
  List.replicate (width - digits.length) '0' ++ digits

def hexUpper (width n : Nat) : List Char := (hexLower width n).map Char.toUpper

end StagedLoad.Text
