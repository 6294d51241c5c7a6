import StagedLoad.Query.Extension

/-!
# Filtering rows

Conditions that a step brings along are passed on as they are.  Contacts that belong to person
accounts come into being with their accounts, so they are kept out of the load of contacts: only
rows whose flag is `true`, in any case, belong to person accounts.
-/

namespace StagedLoad.Extender

def rowFilters (s : Step) : Extender where
  name := "filters"
  filters := part (s.filters.map Expr.raw)

def contactObject : String := "Contact"

/-- the column that marks the rows of person accounts -/
def personAccountColumn : String := "IsPersonAccount"

def isBusinessContact (model : String) : Expr :=
  let mark := Expr.column model personAccountColumn
  .or (.isNull mark) (.ne (.lower mark) (.text "true"))

/-- the extender that keeps person accounts out; it makes sense for contacts only -/
def businessContacts (object : String) (model : Table) : Except Problem Extender :=
  if object = contactObject then
    .ok { name := "person_accounts", filters := some [isBusinessContact model.name] }
  else .error (.notContact object)

end StagedLoad.Extender
