import StagedLoad.Data.Tree
import StagedLoad.Roster

/-!
# Reading values of a data format

A `Form ν` says how the values `ν` of some format are looked at: as a text, a flag, a list, a
table, or nothing at all.  Readers of records are written once over a form and so read every
format.  The rules are the same everywhere: unknown entries of a record are passed over unread, a
known entry may be given only once, and a table in which a name is repeated keeps the first place
and the last value of the name.  `Form.tree` looks at the trees that are written.
-/

namespace StagedLoad.Data

inductive Fault where
  | malformed
  | notText
  | notFlag
  | notList
  | notTable
  | missing (name : String)
  | repeated (name : String)
  | surplus
  deriving DecidableEq, Repr

def Fault.message : Fault → String
  | .malformed => "the text is not well formed"
  | .notText => "a text is wanted"
  | .notFlag => "true or false is wanted"
  | .notList => "a list is wanted"
  | .notTable => "a table is wanted"
  | .missing name => "the entry " ++ name ++ " is missing"
  | .repeated name => "the entry " ++ name ++ " is given twice"
  | .surplus => "there are too many entries"

/-- how the values of a format are looked at -/
structure Form (ν : Type) where
  text? : ν → Option String
  flag? : ν → Option Bool
  /-- whether a value stands for nothing where a text may be absent; `none` if it is neither
  that nor something -/
  absent? : ν → Option Bool
  items? : ν → Option (List ν)
  /-- the entries of a table; a key without a text is `none` -/
  entries? : ν → Option (List (Option String × ν))
  /-- the parts of a record that is written as a bare list, in the order of its fields -/
  row? : ν → Option (List ν)

namespace Form
variable {ν : Type} (F : Form ν)

def text (v : ν) : Except Fault String :=
  match F.text? v with
  | some s => .ok s
  | none => .error .notText

def flag (v : ν) : Except Fault Bool :=
  match F.flag? v with
  | some b => .ok b
  | none => .error .notFlag

def textIfAny (v : ν) : Except Fault (Option String) :=
  match F.absent? v with
  | none => .error .notText
  | some true => .ok none
  | some false => (F.text v).map some

def list {α : Type} (read : ν → Except Fault α) (v : ν) : Except Fault (List α) :=
  match F.items? v with
  | none => .error .notList
  | some items => items.mapM read

def texts (v : ν) : Except Fault (List String) := F.list F.text v

def entry {β : Type} (read : ν → Except Fault β) (e : Option String × ν) :
    Except Fault (String × β) :=
  match e.1 with
  | none => .error .notText
  | some name => (read e.2).map (name, ·)

def keyed {β : Type} (read : ν → Except Fault β) (v : ν) : Except Fault (Keyed β) :=
  match F.entries? v with
  | none => .error .notTable
  | some entries => (entries.mapM (entry read)).map Roster.ofList

/-- the entries whose names are in `names`, each given at most once -/
def known (names : List String) :
    List (Option String × ν) → Except Fault (List (String × ν))
  | [] => .ok []
  | (none, _) :: _ => .error .notText
  | (some name, v) :: entries =>
    match known names entries with
    | .error f => .error f
    | .ok rest =>
      if names.contains name then
        if (rest.map Prod.fst).contains name then .error (.repeated name)
        else .ok ((name, v) :: rest)
      else .ok rest

def record (names : List String) (v : ν) : Except Fault (List (String × ν)) :=
  match F.row? v with
  | some parts =>
    if parts.length ≤ names.length then .ok (names.zip parts) else .error .surplus
  | none =>
    match F.entries? v with
    | none => .error .notTable
    | some entries => known names entries

end Form

/-! ## fields of a record -/

def required {ν α : Type} (given : List (String × ν)) (name : String)
    (read : ν → Except Fault α) : Except Fault α :=
  match given.lookup name with
  | none => .error (.missing name)
  | some v => read v

def defaulting {ν α : Type} (given : List (String × ν)) (name : String) (default : α)
    (read : ν → Except Fault α) : Except Fault α :=
  match given.lookup name with
  | none => .ok default
  | some v => read v

/-! ## the form of trees -/

def Form.tree : Form Tree where
  text? | .text s => some s | _ => none
  flag? | .flag b => some b | _ => none
  absent? _ := some false
  items? | .list items => some items | _ => none
  entries? | .table entries => some (entries.map fun (name, t) => (some name, t)) | _ => none
  row? _ := none

end StagedLoad.Data
