import StagedLoad.Data.Form
import StagedLoad.Data.Yaml.Node

/-!
# Reading YAML values

How a YAML document is looked at.  Any text value is a text where one is wanted, whatever it may
look like.  True and false are plain words, and so is the word for nothing; an empty plain text
is nothing too, and where a list or a table is wanted it is an empty one.  An alias is looked at
as the value that carries its anchor.  A text without a document reads as the unwritten value.
-/

namespace StagedLoad.Data.Yaml

def flagWord? (s : String) : Option Bool :=
  if ["true", "True", "TRUE"].contains s then some true
  else if ["false", "False", "FALSE"].contains s then some false
  else none

def isNullWord (s : String) : Bool := ["null", "Null", "NULL", "~"].contains s

def nullTag : String := "tag:yaml.org,2002:null"

def flagTag : String := "tag:yaml.org,2002:bool"

namespace Node

def follow (root : Node) : Node → Node
  | .reference number => (root.anchored? number).getD unwritten
  | v => v

def text? : Node → Option String
  | .text _ _ _ s => some s
  | _ => none

/-- a truth value, written plainly or as a literal block tagged as one -/
def flag? : Node → Option Bool
  | .text _ style tag s =>
    if style = .plain || (style = .literal && tag = some flagTag) then flagWord? s else none
  | _ => none

/-- whether a value stands for nothing: a plain text that is empty or the word for it.  A plain
text tagged as nothing must be that word, and one with any other tag is something. -/
def absent? : Node → Option Bool
  | .text _ .plain none s => some (s.isEmpty || isNullWord s)
  | .text _ .plain (some tag) s =>
    if tag = nullTag then (if isNullWord s then some true else none) else some false
  | _ => some false

def isBlankText : Node → Bool
  | .text _ .plain _ s => s.isEmpty
  | _ => false

def items? : Node → Option (List Node)
  | .sequence _ items => some items
  | v => if v.isBlankText then some [] else none

def entries? : Node → Option (List (Node × Node))
  | .mapping _ entries => some entries
  | v => if v.isBlankText then some [] else none

def form (root : Node) : Form Node where
  text? v := (root.follow v).text?
  flag? v := (root.follow v).flag?
  absent? v := (root.follow v).absent?
  items? v := (root.follow v).items?
  entries? v := (root.follow v).entries?.map fun es =>
    es.map fun (k, v) => ((root.follow k).text?, v)
  row? _ := none

end Node

def readAs {α : Type} (reader : Form Node → Node → Except Data.Fault α) (s : String) :
    Except String α :=
  match Node.ofText s with
  | .error f => .error f.message
  | .ok doc =>
    let root := doc.getD .unwritten
    match reader root.form root with
    | .error f => .error f.message
    | .ok a => .ok a

end StagedLoad.Data.Yaml
