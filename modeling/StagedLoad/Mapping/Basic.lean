import StagedLoad.Problem
import StagedLoad.Step.Basic

/-!
# Mappings

A mapping holds load steps by name, in load order.  Steps that are added go under the name of
their object, and an object has one step at most (`push`, `ofSteps`).
-/

namespace StagedLoad

structure Mapping where
  steps : Keyed Step := ∅
  deriving DecidableEq

namespace Mapping

def toList (m : Mapping) : List Step := m.steps.values

def size (m : Mapping) : Nat := m.steps.size

def isEmpty (m : Mapping) : Bool := m.steps.isEmpty

def get? (m : Mapping) (object : String) : Option Step := m.steps.get? object

/-- add a step behind the others; its object must have none yet -/
def push (m : Mapping) (s : Step) : Except Problem Mapping :=
  if m.steps.hasKey s.object then .error (.repeatedStep s.object)
  else .ok { steps := m.steps.insert s.object s }

def pushAll : Mapping → List Step → Except Problem Mapping
  | m, [] => .ok m
  | m, s :: ss => m.push s >>= fun m => pushAll m ss

def ofSteps (ss : List Step) : Except Problem Mapping := ({} : Mapping).pushAll ss

/-- the two mappings have the same steps under the same names, whatever the order -/
def agrees (m n : Mapping) : Bool := m.steps.agrees Step.agrees n.steps

/-! ## small facts -/

theorem pushAll_nil (m : Mapping) : m.pushAll [] = .ok m := rfl

theorem pushAll_cons (m : Mapping) (s : Step) (ss : List Step) :
    m.pushAll (s :: ss) = m.push s >>= fun m => m.pushAll ss := rfl

theorem push_of_not_mem {m : Mapping} {s : Step} (h : s.object ∉ m.steps.keys) :
    m.push s = .ok { steps := m.steps.insert s.object s } := by
  have : m.steps.hasKey s.object = false := by
    rw [Bool.eq_false_iff]
    exact fun e => h ((m.steps.hasKey_iff s.object).mp e)
  rw [push, this]; rfl

theorem push_of_mem {m : Mapping} {s : Step} (h : s.object ∈ m.steps.keys) :
    m.push s = .error (.repeatedStep s.object) := by
  rw [push, (m.steps.hasKey_iff s.object).mpr h]; rfl

theorem toList_push {m n : Mapping} {s : Step} (h : m.push s = .ok n) :
    n.toList = m.toList ++ [s] := by
  by_cases hm : s.object ∈ m.steps.keys
  · rw [push_of_mem hm] at h; cases h
  · rw [push_of_not_mem hm] at h
    cases h
    show (m.steps.put (s.object, s)).toList.map Prod.snd = _
    have : Prod.fst (s.object, s) ∉ m.steps.keys := hm
    rw [Roster.toList_put_of_not_mem this, List.map_append]; rfl

end Mapping

end StagedLoad
