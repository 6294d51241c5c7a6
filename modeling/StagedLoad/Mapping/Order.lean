import StagedLoad.Export.Edge
import StagedLoad.Journal
import StagedLoad.Step.Basic

/-!
# Load order

An orderer brings the steps of an export into load order and attaches their lookups, each
resolved to one object.  `declarationOrder` keeps the steps in the order of the declarations:
every edge is resolved against its first target, and is deferred to the update behind all
inserts unless that object is loaded by an earlier step.  An edge without targets is passed over,
and a narrowing among several targets leaves a notice.
-/

namespace StagedLoad

/-- a wish about the load order of an object -/
structure Rule where
  object : String
  loadAfter : List String := []
  deriving DecidableEq, Repr

/-- brings steps into load order, given the edges between their objects -/
abbrev Orderer := List Step → OrderedSet Edge → List Rule → Journal (List Step)

namespace Edge

/-- the lookup that an edge is resolved to, given the objects loaded before -/
def resolved (loaded : List String) (e : Edge) : Option (String × Lookup) :=
  match e.targets with
  | [] => none
  | target :: _ => some (e.field, { table := target, after := !loaded.contains target })

def narrowing? (e : Edge) : Option Notice :=
  match e.targets with
  | [] => none
  | target :: _ => if e.isPolymorphic then some (.edgeNarrowed e.text target) else none

end Edge

/-- a step with the lookups of its edges attached, given the objects loaded before -/
def Step.attach (s : Step) (edges : OrderedSet Edge) (loaded : List String) : Step :=
  { s with
    lookups :=
      s.lookups.putAll ((Edge.startingAt edges s.object).filterMap (Edge.resolved loaded)) }

def attachLookups (edges : OrderedSet Edge) (loaded : List String) : List Step → List Step
  | [] => []
  | s :: ss => s.attach edges loaded :: attachLookups edges (s.object :: loaded) ss

def narrowings (edges : OrderedSet Edge) (ss : List Step) : List Notice :=
  ss.flatMap fun s => (Edge.startingAt edges s.object).filterMap Edge.narrowing?

/-- keep the order of the declarations -/
def declarationOrder : Orderer := fun ss edges _ =>
  ⟨narrowings edges ss, .ok (attachLookups edges [] ss)⟩

/-! ## small facts -/

@[simp] theorem Step.object_attach (s : Step) (edges : OrderedSet Edge) (loaded : List String) :
    (s.attach edges loaded).object = s.object := rfl

@[simp] theorem Step.fields_attach (s : Step) (edges : OrderedSet Edge) (loaded : List String) :
    (s.attach edges loaded).fields = s.fields := rfl

theorem attachLookups_cons (edges : OrderedSet Edge) (loaded : List String) (s : Step)
    (ss : List Step) :
    attachLookups edges loaded (s :: ss) =
      s.attach edges loaded :: attachLookups edges (s.object :: loaded) ss := rfl

theorem length_attachLookups (edges : OrderedSet Edge) (loaded : List String) (ss : List Step) :
    (attachLookups edges loaded ss).length = ss.length := by
  induction ss generalizing loaded with
  | nil => rfl
  | cons s ss ih => rw [attachLookups_cons, List.length_cons, ih, List.length_cons]

theorem map_object_attachLookups (edges : OrderedSet Edge) (loaded : List String)
    (ss : List Step) :
    (attachLookups edges loaded ss).map Step.object = ss.map Step.object := by
  induction ss generalizing loaded with
  | nil => rfl
  | cons s ss ih => rw [attachLookups_cons, List.map_cons, ih, List.map_cons, Step.object_attach]

end StagedLoad
