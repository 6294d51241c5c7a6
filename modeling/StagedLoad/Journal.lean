import StagedLoad.Problem
import StagedLoad.Text.Listing

/-!
# Journals

A computation that may fail and leaves notices on its way.  The notices up to a failure are kept,
and the outcome does not depend on them: taking the outcome of a composed computation is
composing the outcomes (`outcome_bind`, `outcome_mapM`).
-/

namespace StagedLoad

inductive Level where
  | debug
  | info
  | warn
  deriving DecidableEq, Repr

inductive Notice where
  /-- a lookup whose targets are all outside the export is left out -/
  | lookupDropped (object field : String) (references : List String)
  /-- an edge with several targets is resolved against the first of them -/
  | edgeNarrowed (edge target : String)
  | mappingGenerated (steps dependencies : Nat)
  /-- a lookup is read through a table of ids under an alias -/
  | lookupJoined (object lookup table name : String)
  | joinsAdded (extender : String) (count : Nat)
  | columnsAdded (extender : String) (count : Nat)
  | filtersAdded (extender : String) (count : Nat)
  | queryComposed (object : String) (columns joins filters : Nat)
  | queryWritten (sql : String)
  deriving DecidableEq, Repr

namespace Notice

def level : Notice → Level
  | .edgeNarrowed .. => .warn
  | .mappingGenerated .. => .info
  | .queryComposed .. => .info
  | _ => .debug

def text : Notice → String
  | .lookupDropped object field references =>
    "dropping lookup " ++ object ++ "." ++ field ++ ": none of " ++ Text.shownList references ++
      " is exported"
  | .edgeNarrowed edge target => edge ++ " is polymorphic, resolving it against " ++ target
  | .mappingGenerated steps dependencies =>
    "generated load mapping: " ++ toString steps ++ " steps, " ++ toString dependencies ++
      " dependencies"
  | .lookupJoined object lookup table name =>
    "lookup " ++ object ++ "." ++ lookup ++ " -> " ++ table ++ " as " ++ name
  | .joinsAdded extender count => extender ++ ": " ++ toString count ++ " outer joins"
  | .columnsAdded extender count => extender ++ ": " ++ toString count ++ " columns"
  | .filtersAdded extender count => extender ++ ": " ++ toString count ++ " filters"
  | .queryComposed object columns joins filters =>
    "composed load query for " ++ object ++ ": " ++ toString columns ++ " columns, " ++
      toString joins ++ " joins, " ++ toString filters ++ " filters"
  | .queryWritten sql => sql

end Notice

/-- an outcome and the notices on the way to it -/
structure Journal (α : Type) where
  notices : List Notice
  outcome : Except Problem α

namespace Journal
variable {α β : Type}

instance : Monad Journal where
  pure a := ⟨[], .ok a⟩
  bind x f :=
    match x with
    | ⟨ns, .error p⟩ => ⟨ns, .error p⟩
    | ⟨ns, .ok a⟩ =>
      let y := f a
      ⟨ns ++ y.notices, y.outcome⟩

def note (n : Notice) : Journal Unit := ⟨[n], .ok ()⟩

def fail (p : Problem) : Journal α := ⟨[], .error p⟩

def ofExcept (x : Except Problem α) : Journal α := ⟨[], x⟩

/-! ## small facts -/

@[simp] theorem outcome_ofExcept (x : Except Problem α) : (ofExcept x).outcome = x := rfl

@[simp] theorem outcome_bind (x : Journal α) (f : α → Journal β) :
    (x >>= f).outcome = x.outcome >>= fun a => (f a).outcome := by
  rcases x with ⟨ns, p | a⟩ <;> rfl

theorem ext {x y : Journal α} (hn : x.notices = y.notices) (ho : x.outcome = y.outcome) :
    x = y := by
  cases x; cases y; cases hn; cases ho; rfl

theorem pure_bind (a : α) (f : α → Journal β) : (pure a >>= f) = f a := by
  apply ext
  · show [] ++ (f a).notices = _
    rfl
  · rfl

theorem bind_pure (x : Journal α) : (x >>= pure) = x := by
  rcases x with ⟨ns, p | a⟩
  · rfl
  · apply ext
    · show ns ++ [] = ns
      exact List.append_nil ns
    · rfl

theorem bind_assoc {γ : Type} (x : Journal α) (f : α → Journal β) (g : β → Journal γ) :
    (x >>= f) >>= g = x >>= fun a => f a >>= g := by
  rcases x with ⟨ns, p | a⟩
  · rfl
  · generalize hy : f a = y
    rcases y with ⟨ms, p | b⟩
    · show (⟨ns ++ (f a).notices, (f a).outcome⟩ : Journal β) >>= g =
        ⟨ns ++ (f a >>= g).notices, (f a >>= g).outcome⟩
      rw [hy]; rfl
    · show (⟨ns ++ (f a).notices, (f a).outcome⟩ : Journal β) >>= g =
        ⟨ns ++ (f a >>= g).notices, (f a >>= g).outcome⟩
      rw [hy]
      apply ext
      · exact List.append_assoc ns ms (g b).notices
      · rfl

instance : LawfulMonad Journal :=
  LawfulMonad.mk' Journal (fun x => bind_pure x) (fun a f => pure_bind a f)
    (fun x f g => bind_assoc x f g)

theorem outcome_mapM (f : α → Journal β) (as : List α) :
    (as.mapM f).outcome = as.mapM fun a => (f a).outcome := by
  induction as with
  | nil => rfl
  | cons a as ih =>
    rw [List.mapM_cons, List.mapM_cons, outcome_bind]
    congr 1
    funext b
    rw [outcome_bind, ih]
    rfl

end Journal

end StagedLoad
