import StagedLoad.Journal
import StagedLoad.Query.Plan

/-!
# Extending a plan

An extender adds joins, columns and filters to a plan.  The joins of all extenders come first,
then all columns, then all filters, so that every column and filter may refer to the joins of any
extender.  Each part that an extender has leaves a notice, even an empty one.
-/

namespace StagedLoad

structure Extender where
  name : String
  columns : Option (List Expr) := none
  joins : Option (List Join) := none
  filters : Option (List Expr) := none
  deriving DecidableEq, Repr

namespace Extender

/-- a part of an extender; an empty one is none -/
def part {α : Type} (items : List α) : Option (List α) :=
  if items.isEmpty then none else some items

theorem getD_part {α : Type} (items : List α) : (part items).getD [] = items := by
  cases items <;> rfl

end Extender

namespace Plan

/-- the plan with the joins, columns and filters of all extenders, stage by stage -/
def extended (p : Plan) (es : List Extender) : Plan :=
  ((p.addJoins (es.flatMap fun e => e.joins.getD [])).addColumns
    (es.flatMap fun e => e.columns.getD [])).addFilters (es.flatMap fun e => e.filters.getD [])

def extensionNotices (es : List Extender) : List Notice :=
  (es.filterMap fun e => e.joins.map fun js => .joinsAdded e.name js.length) ++
  (es.filterMap fun e => e.columns.map fun cs => .columnsAdded e.name cs.length) ++
  (es.filterMap fun e => e.filters.map fun fs => .filtersAdded e.name fs.length)

def extend (p : Plan) (es : List Extender) : Journal Plan :=
  ⟨extensionNotices es, .ok (p.extended es)⟩

@[simp] theorem outcome_extend (p : Plan) (es : List Extender) :
    (p.extend es).outcome = .ok (p.extended es) := rfl

theorem source_extended (p : Plan) (es : List Extender) : (p.extended es).source = p.source := rfl

theorem orderBy_extended (p : Plan) (es : List Extender) :
    (p.extended es).orderBy = p.orderBy := rfl

theorem joins_extended (p : Plan) (es : List Extender) :
    (p.extended es).joins = p.joins ++ es.flatMap fun e => e.joins.getD [] := rfl

theorem columns_extended (p : Plan) (es : List Extender) :
    (p.extended es).columns = p.columns ++ es.flatMap fun e => e.columns.getD [] := rfl

theorem filters_extended (p : Plan) (es : List Extender) :
    (p.extended es).filters = p.filters ++ es.flatMap fun e => e.filters.getD [] := rfl

end Plan

end StagedLoad
