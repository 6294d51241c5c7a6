import StagedLoad.Text.Hex
import StagedLoad.Text.Printable

/-!
# Lists of names in a line of text

A name that is shown inside a line stands between double quotes, with everything escaped that
could end the quotes, break the line or hide: quotes, backslashes, line ends, and all characters
without a visible form, by their code point.  A list of names is shown between brackets.
-/

namespace StagedLoad.Text

def shownChar (c : Char) : List Char :=
  match c with
  | '\x00' => ['\\', '0']
  | '\t' => ['\\', 't']
  | '\r' => ['\\', 'r']
  | '\n' => ['\\', 'n']
  | '\\' => ['\\', '\\']
  | '"' => ['\\', '"']
  | c => if isPrintable c then [c] else ['\\', 'u', '\x7b'] ++ hexLower 1 c.toNat ++ ['\x7d']

def shown (s : String) : String :=
  String.ofList ('"' :: s.toList.flatMap shownChar ++ ['"'])

def shownList (names : List String) : String :=
  "[" ++ String.intercalate ", " (names.map shown) ++ "]"

end StagedLoad.Text
