import StagedLoad.Data.Form

/-!
# JSON values

A JSON text may escape half of a surrogate pair on its own; such a string has no text, which
matters only where its text is wanted.  Numbers are wanted nowhere, so a value only remembers
that it is one.  A record may be written as the array of its fields, and `null` stands for an
absent text.
-/

namespace StagedLoad.Data

inductive Json where
  | null
  | flag (b : Bool)
  | number
  /-- a string, with its text if it has one -/
  | string (text : Option String)
  | array (items : List Json)
  | object (entries : List (Option String × Json))
  deriving Repr, Inhabited

namespace Json

def form : Form Json where
  text? | .string text => text | _ => none
  flag? | .flag b => some b | _ => none
  absent? | .null => some true | _ => some false
  items? | .array items => some items | _ => none
  entries? | .object entries => some entries | _ => none
  row? | .array items => some items | _ => none

end Json

end StagedLoad.Data
