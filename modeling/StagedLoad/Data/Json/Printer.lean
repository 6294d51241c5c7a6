import StagedLoad.Data.Tree
import StagedLoad.Text.Hex

/-!
# Printing JSON

Trees are printed without white space.  In a string the quote, the backslash and the controls are
escaped, with a letter where there is one; everything else stands as it is.
-/

namespace StagedLoad.Data.Json

open StagedLoad.Text

def escapedChar (c : Char) : List Char :=
  match c with
  | '"' => ['\\', '"']
  | '\\' => ['\\', '\\']
  | '\x08' => ['\\', 'b']
  | '\x0c' => ['\\', 'f']
  | '\n' => ['\\', 'n']
  | '\r' => ['\\', 'r']
  | '\t' => ['\\', 't']
  | c => if c.toNat < 0x20 then '\\' :: 'u' :: hexLower 4 c.toNat else [c]

def printText (s : String) : String :=
  String.ofList ('"' :: s.toList.flatMap escapedChar ++ ['"'])

mutual

def print : Tree → String
  | .text s => printText s
  | .flag b => if b then "true" else "false"
  | .list items => "[" ++ String.intercalate "," (printItems items) ++ "]"
  | .table entries => "\x7b" ++ String.intercalate "," (printEntries entries) ++ "\x7d"

def printItems : List Tree → List String
  | [] => []
  | t :: ts => print t :: printItems ts

def printEntries : List (String × Tree) → List String
  | [] => []
  | (name, t) :: es => (printText name ++ ":" ++ print t) :: printEntries es

end

end StagedLoad.Data.Json
