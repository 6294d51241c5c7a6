import StagedLoad.Export.Declaration

/-!
# Dependencies between exported objects

An edge says that an object refers to others through a field.  `Edge.discover` lists the edges of
an export in the order of its declarations, each edge once.
-/

namespace StagedLoad

structure Edge where
  source : String
  targets : List String
  field : String
  deriving DecidableEq, Repr

namespace Edge

/-- the field may refer to objects of several kinds -/
def isPolymorphic (e : Edge) : Bool := e.targets.length > 1

def isSelfReference (e : Edge) : Bool := e.targets.contains e.source

def text (e : Edge) : String :=
  e.source ++ "." ++ e.field ++ " -> " ++ String.intercalate "|" e.targets

def ofClassified (c : Classified) : List Edge :=
  c.lookups.toList.map fun (field, targets) =>
    { source := c.object, targets := targets, field := field }

def discover (cs : List Classified) : OrderedSet Edge := Roster.ofList (cs.flatMap ofClassified)

def startingAt (edges : OrderedSet Edge) (object : String) : List Edge :=
  edges.toList.filter fun e => e.source = object

theorem ofClassified_source {c : Classified} {e : Edge} (h : e ∈ ofClassified c) :
    e.source = c.object := by
  obtain ⟨⟨field, targets⟩, _, rfl⟩ := List.mem_map.mp h
  rfl

theorem startingAt_source {edges : OrderedSet Edge} {object : String} {e : Edge}
    (h : e ∈ startingAt edges object) : e.source = object := by
  simpa using (List.mem_filter.mp h).2

end Edge

end StagedLoad
