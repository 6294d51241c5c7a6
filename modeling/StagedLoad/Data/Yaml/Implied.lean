import StagedLoad.Data.Yaml.Form

/-!
# Plain texts that mean something else

A text that would be read as nothing, as a truth value or as a number when it stands plain has to
be quoted to stay a text.  Integers in base 16, 8 and 2 count up to 128 bits; decimal numbers
count when they are finite in double precision, that is when they round to less than `2 ^ 1024`.
Digits with needless zeros in front are no number, but are quoted as well.
-/

namespace StagedLoad.Data.Yaml

open StagedLoad.Text

/-! ## integers with a base -/

def digitIn? (base : Nat) (c : Char) : Option Nat :=
  (hexValue? c).bind fun d => if d < base then some d else none

/-- the number that digits in a base stand for; no digits stand for none -/
def numberIn? (base : Nat) (cs : List Char) : Option Nat :=
  if cs.isEmpty then none
  else cs.foldl (fun n? c => n?.bind fun n => (digitIn? base c).map (base * n + ·)) (some 0)

def basedNumber? : List Char → Option Nat
  | '0' :: 'x' :: cs => numberIn? 16 cs
  | '0' :: 'o' :: cs => numberIn? 8 cs
  | '0' :: 'b' :: cs => numberIn? 2 cs
  | _ => none

/-- an integer with a base: of 128 bits without a sign, or of 128 bits with one -/
def isBasedInteger : List Char → Bool
  | '-' :: cs => (basedNumber? cs).any (· ≤ Nat.pow 2 127)
  | '+' :: cs => (basedNumber? cs).any (· < Nat.pow 2 128)
  | cs => (basedNumber? cs).any (· < Nat.pow 2 128)

/-! ## decimal numbers -/

def isDecimalDigit (c : Char) : Bool := '0' ≤ c && c ≤ '9'

def decimalNumber (cs : List Char) : Nat := cs.foldl (fun n c => 10 * n + (c.toNat - 48)) 0

def exponent? : List Char → Option Int
  | [] => some 0
  | c :: cs =>
    if c ≠ 'e' && c ≠ 'E' then none
    else
      let (negative, ds) := match cs with
        | '+' :: ds => (false, ds)
        | '-' :: ds => (true, ds)
        | ds => (false, ds)
      if ds.isEmpty || !ds.all isDecimalDigit then none
      else some (if negative then -(decimalNumber ds : Int) else decimalNumber ds)

/-- the significant digits and the power of ten of a decimal without a sign -/
def decimal? (cs : List Char) : Option (Nat × Int) :=
  let whole := cs.takeWhile isDecimalDigit
  let rest := cs.dropWhile isDecimalDigit
  let (fraction, rest) := match rest with
    | '.' :: ds => (ds.takeWhile isDecimalDigit, ds.dropWhile isDecimalDigit)
    | ds => ([], ds)
  if whole.isEmpty && fraction.isEmpty then none
  else (exponent? rest).map fun e => (decimalNumber (whole ++ fraction), e - fraction.length)

/-- `m · 10 ^ e` rounds to a finite number of double precision -/
def isFinite (m : Nat) (e : Int) : Bool :=
  let bound := Nat.pow 2 1024 - Nat.pow 2 970
  if m = 0 then true
  else if e < 0 then
    -- enough digits behind the point bring any number below the bound
    let digits := (Nat.toDigits 10 m).length
    if (digits : Int) + e ≤ 308 then true
    else m < bound * Nat.pow 10 e.natAbs
  else if e > 308 then false
  else m * Nat.pow 10 e.toNat < bound

def isDecimal (cs : List Char) : Bool :=
  let cs := match cs with
    | '+' :: ds => ds
    | '-' :: ds => ds
    | ds => ds
  match decimal? cs with
  | some (m, e) => isFinite m e
  | none => false

def isSpecialNumber (s : String) : Bool :=
  [".inf", ".Inf", ".INF", "+.inf", "+.Inf", "+.INF", "-.inf", "-.Inf", "-.INF",
    ".nan", ".NaN", ".NAN"].contains s

/-- two digits or more, the first of them zero, with an optional sign -/
def isZeroLed (cs : List Char) : Bool :=
  let cs := match cs with
    | '+' :: ds => ds
    | '-' :: ds => ds
    | ds => ds
  match cs with
  | '0' :: d :: ds => (d :: ds).all isDecimalDigit
  | _ => false

/-- a plain text that would not be read as a text, or is quoted like one -/
def isImplied (s : String) : Bool :=
  s.isEmpty || isNullWord s || (flagWord? s).isSome || isSpecialNumber s ||
    isZeroLed s.toList || isBasedInteger s.toList || isDecimal s.toList

end StagedLoad.Data.Yaml
