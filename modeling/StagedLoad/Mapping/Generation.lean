import StagedLoad.Export.Classification
import StagedLoad.Mapping.Basic
import StagedLoad.Mapping.Order

/-!
# From declarations to a mapping

The fields of all declarations are sorted, the edges between the exported objects collected, the
steps brought into order, and the mapping made of them.  Any failure on the way yields no mapping
at all.
-/

namespace StagedLoad.Mapping

/-- the mapping that loads what the declarations export -/
def generate (ds : List Declaration) (org : OrgView) (orderer : Orderer) (rules : List Rule) :
    Journal Mapping := do
  let classified ← Declaration.classifyAll ds org
  let edges := Edge.discover classified
  let ordered ← orderer (classified.map Step.ofClassified) edges rules
  let mapping ← Journal.ofExcept (ofSteps ordered)
  Journal.note (.mappingGenerated mapping.size edges.size)
  return mapping

theorem outcome_generate (ds : List Declaration) (org : OrgView) (orderer : Orderer)
    (rules : List Rule) :
    (generate ds org orderer rules).outcome =
      (do
        let classified ← (Declaration.classifyAll ds org).outcome
        let ordered ←
          (orderer (classified.map Step.ofClassified) (Edge.discover classified) rules).outcome
        ofSteps ordered) := by
  unfold generate
  rw [Journal.outcome_bind]
  congr 1
  funext classified
  rw [Journal.outcome_bind]
  congr 1
  funext ordered
  rw [Journal.outcome_bind]
  show (ofSteps ordered) >>= _ = _
  cases ofSteps ordered <;> rfl

end StagedLoad.Mapping
