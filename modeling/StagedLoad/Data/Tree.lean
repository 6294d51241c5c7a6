/-!
# Trees of plain data

What the library writes down is first laid out as a `Tree` of texts, flags, lists and tables, and
then printed in some format.  A table keeps the order of its entries.
-/

namespace StagedLoad.Data

inductive Tree where
  | text (s : String)
  | flag (b : Bool)
  | list (items : List Tree)
  | table (entries : List (String × Tree))
  deriving Repr, Inhabited

namespace Tree

def texts (ss : List String) : Tree := .list (ss.map .text)

/-- the entry of a part that is left out when absent -/
def textIfAny (name : String) : Option String → List (String × Tree)
  | none => []
  | some s => [(name, .text s)]

def textsIfAny (name : String) : List String → List (String × Tree)
  | [] => []
  | ss => [(name, texts ss)]

end Tree

end StagedLoad.Data
