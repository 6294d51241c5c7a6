import StagedLoad.Export.Edge
import StagedLoad.Proofs.LastItem

/-!
# Edges, each once

A set of edges can be added to, edge by edge or by a list, and it can be collected anew from a
list.  Whatever was done to it, it holds the edges that were given to it since it was last
collected, in the order of their first insertion (`run_eq_ofList`), and adding an edge tells
whether it is new.  Edges that differ in their targets or only in the order of these are different
edges.

The edges of an export are collected from its declarations.  So those of two exports taken together
are the edges of the first one extended by the edges of the second (`discover_append`), and
declarations that are repeated add nothing (`discover_absorbs`).
-/

namespace StagedLoad.Edge

/-! ## runs -/

inductive Change where
  | insert (e : Edge)
  | extend (es : List Edge)
  | collect (es : List Edge)

def Change.on (edges : OrderedSet Edge) : Change → OrderedSet Edge
  | .insert e => (edges.add e).1
  | .extend es => edges.putAll es
  | .collect es => Roster.ofList es

/-- the set of edges after changes, starting without edges -/
def run (cs : List Change) : OrderedSet Edge := cs.foldl Change.on ∅

/-- the edges given since the last collection, from those given before a change -/
def Change.given (before : List Edge) : Change → List Edge
  | .insert e => before ++ [e]
  | .extend es => before ++ es
  | .collect es => es

/-- the edges given in a run since its last collection, repetitions and all -/
def givenBy (cs : List Change) : List Edge := cs.foldl Change.given []

theorem on_ofList (es : List Edge) (c : Change) :
    c.on (Roster.ofList es) = Roster.ofList (c.given es) := by
  cases c with
  | insert e => exact (Roster.ofList_append es [e]).symm
  | extend es' => exact (Roster.ofList_append es es').symm
  | collect es' => rfl

theorem run_eq_ofList (cs : List Change) : run cs = Roster.ofList (givenBy cs) := by
  -- for a run from any set, given the edges that it was made of
  have h : ∀ es : List Edge,
      cs.foldl Change.on (Roster.ofList es) = Roster.ofList (cs.foldl Change.given es) := by
    induction cs with
    | nil => exact fun es => rfl
    | cons c cs ih => exact fun es => by rw [List.foldl_cons, on_ofList, ih, List.foldl_cons]
  exact h []

theorem firstOccurrences_run (cs : List Change) :
    FirstOccurrences (givenBy cs) (run cs).toList := by
  rw [firstOccurrences_iff, run_eq_ofList, OrderedSet.toList_ofList]

/-! ## the edges of an export -/

theorem discover_append (cs ds : List Classified) :
    discover (cs ++ ds) = (discover cs).putAll (discover ds).toList := by
  rw [discover, List.flatMap_append, Roster.ofList_append, discover, discover,
    Roster.putAll_ofList]

theorem mem_discover {cs : List Classified} {e : Edge} :
    e ∈ (discover cs).toList ↔ ∃ c ∈ cs, e ∈ ofClassified c := by
  rw [discover, OrderedSet.toList_ofList, List.mem_eraseDups, List.mem_flatMap]

theorem discover_absorbs {cs ds : List Classified} (h : ∀ d ∈ ds, d ∈ cs) :
    discover (cs ++ ds) = discover cs := by
  rw [discover_append]
  refine Roster.putAll_of_forall_mem fun e he => ?_
  obtain ⟨d, hd, hde⟩ := mem_discover.mp he
  exact mem_discover.mpr ⟨d, h d hd, hde⟩

/-! ## the law -/

/-- **A set of edges holds what it was given, each edge once and in the order of first insertion;
so does the set of the edges of an export, to which repeated declarations add nothing.** -/
theorem edges_each_once :
    (∀ cs : List Change, FirstOccurrences (givenBy cs) (run cs).toList ∧
      ∀ e, ((run cs).add e).2 = true ↔ e ∉ (run cs).toList) ∧
    (∀ cs ds : List Classified, discover (cs ++ ds) = (discover cs).putAll (discover ds).toList) ∧
    ∀ cs ds : List Classified, (∀ d ∈ ds, d ∈ cs) → discover (cs ++ ds) = discover cs :=
  ⟨fun cs => ⟨firstOccurrences_run cs, OrderedSet.isNew_add (run cs)⟩, discover_append,
    fun _ _ => discover_absorbs⟩

def taskEdge (targets : List String) : Edge :=
  { source := "Task", targets := targets, field := "WhatId" }

def taskLookup (targets : List String) : Classified :=
  { object := "Task", lookups := Roster.ofList [("WhatId", targets)] }

/-- edges that differ in the order of their targets are two, and stay two; what was given before
the last collection is gone -/
theorem edges_each_once_tasks :
    let cs : List Change := [.insert (taskEdge ["Account"]),
      .collect [taskEdge ["Account", "Contact"], taskEdge ["Contact"]],
      .extend [taskEdge ["Contact", "Account"], taskEdge ["Contact"]],
      .insert (taskEdge ["Account", "Contact"])]
    FirstOccurrences (givenBy cs) (run cs).toList ∧
      (run cs).toList = [taskEdge ["Account", "Contact"], taskEdge ["Contact"],
        taskEdge ["Contact", "Account"]] ∧
      ((run cs).add (taskEdge ["Account"])).2 = true ∧
      (discover [taskLookup ["Account", "Contact"], taskLookup ["Contact", "Account"]]).size = 2 ∧
      discover ([taskLookup ["Account", "Contact"], taskLookup ["Contact", "Account"]] ++
          [taskLookup ["Contact", "Account"], taskLookup ["Account", "Contact"],
            taskLookup ["Contact", "Account"]]) =
        discover [taskLookup ["Account", "Contact"], taskLookup ["Contact", "Account"]] := by
  intro cs
  have hl : (run cs).toList = [taskEdge ["Account", "Contact"], taskEdge ["Contact"],
      taskEdge ["Contact", "Account"]] := by decide +kernel
  obtain ⟨hf, ha⟩ := edges_each_once.1 cs
  refine ⟨hf, hl, (ha _).mpr ?_, by decide +kernel, edges_each_once.2.2 _ _ ?_⟩
  · rw [hl]
    decide +kernel
  · decide +kernel

end StagedLoad.Edge
