import StagedLoad.Proofs.Query.Layout
import StagedLoad.Proofs.Query.Meaning

/-!
# The rows that a load selects

The filters of a load plan come from three places: the record type of the step, the conditions that
the step brings along, and person accounts.  Whether they select a scope depends on its staging row
and on the truth of those conditions alone, and `Step.Admits` says how.

A row without a record type is not of the type asked for, and a row without a mark belongs to no
person account.  In SQL both come to a comparison with NULL, which is unknown; so the condition on
the mark asks for NULL in so many words.
-/

namespace StagedLoad

namespace Engine
variable {E : Engine} {scope : Scope} {row : Row} {es fs : List Expr} {P Q : Prop}

/-! ## filters that are in force together -/

/-- the filters have a truth value, and they select the scope exactly when `P` -/
def SelectsWhen (E : Engine) (scope : Scope) (es : List Expr) (P : Prop) : Prop :=
  ∃ b, E.selects scope es = .ok b ∧ (b = true ↔ P)

namespace SelectsWhen

theorem nil : E.SelectsWhen scope [] True := ⟨true, rfl, by simp⟩

theorem singleton {e : Expr} {b : Bool} (h : E.holds scope e = .ok b) :
    E.SelectsWhen scope [e] (b = true) := by
  refine ⟨b && true, ?_, by simp⟩
  rw [selects_cons, h]
  rfl

theorem append (he : E.SelectsWhen scope es P) (hf : E.SelectsWhen scope fs Q) :
    E.SelectsWhen scope (es ++ fs) (P ∧ Q) := by
  obtain ⟨a, he, ha⟩ := he
  obtain ⟨b, hf, hb⟩ := hf
  refine ⟨a && b, ?_, ?_⟩
  · rw [selects_append, he, hf]
    rfl
  · rw [Bool.and_eq_true, ha, hb]

theorem congr (h : E.SelectsWhen scope es P) (hq : P ↔ Q) : E.SelectsWhen scope es Q := by
  obtain ⟨b, h, hb⟩ := h
  exact ⟨b, h, hb.trans hq⟩

theorem ite {c : Prop} [Decidable c] (h : c → E.SelectsWhen scope es P) :
    E.SelectsWhen scope (if c then es else []) (c → P) := by
  split
  · next hc => exact (h hc).congr (by simp [hc])
  · next hc => exact nil.congr (by simp [hc])

theorem eq_decide [Decidable P] (h : E.SelectsWhen scope es P) :
    E.selects scope es = .ok (decide P) := by
  obtain ⟨b, h, hb⟩ := h
  rw [h]
  congr 1
  rw [Bool.eq_iff_iff, decide_eq_true_iff]
  exact hb

end SelectsWhen

/-! ## the filters of each kind -/

/-- conditions from outside select a scope when all are true there; unknown is not enough -/
theorem selectsWhen_raw (E : Engine) (scope : Scope) (sqls : List String) :
    E.SelectsWhen scope (sqls.map Expr.raw) (∀ sql ∈ sqls, E.raw sql scope = some true) := by
  induction sqls with
  | nil => exact SelectsWhen.nil.congr (by simp)
  | cons sql sqls ih =>
    have hs : E.holds scope (.raw sql) = .ok (E.raw sql scope == some true) := by
      rw [holds, eval]
      cases E.raw sql scope <;> rfl
    apply ((SelectsWhen.singleton hs).append ih).congr
    rw [List.forall_mem_cons, beq_iff_eq]

theorem selectsWhen_recordType (s : Step) {model : Table} (hr : scope.row model.name = .ok row) :
    E.SelectsWhen scope (Extender.recordTypeFilters s model)
      (∀ t ∈ s.recordType, model.hasColumn recordTypeColumn = true →
        row recordTypeColumn = some t) := by
  unfold Extender.recordTypeFilters
  cases s.recordType with
  | none => exact SelectsWhen.nil.congr (by simp)
  | some t =>
    have ht : E.holds scope (.eq (.column model.name recordTypeColumn) (.text t)) =
        .ok (decide (row recordTypeColumn = some t)) :=
      holds_eq (b := some t) (eval_column hr) rfl
    apply (SelectsWhen.ite fun _ => SelectsWhen.singleton ht).congr
    simp

/-- a row is a contact of its own unless its mark is `true`, in any case; without a mark the first
half of the condition is true, although the second is unknown -/
theorem selectsWhen_isBusinessContact {model : String} (hr : scope.row model = .ok row) :
    E.SelectsWhen scope [Extender.isBusinessContact model]
      (∀ mark ∈ row Extender.personAccountColumn, E.lower mark ≠ "true") := by
  have hm : E.eval scope (.column model Extender.personAccountColumn) =
      .ok ((row Extender.personAccountColumn).map .text) := eval_column hr
  have ht : E.eval scope (.text "true") = .ok ((some "true").map .text) := rfl
  have hne := eval_ne (eval_lower hm) ht
  apply (SelectsWhen.singleton (holds_or (eval_isNull hm) hne)).congr
  cases row Extender.personAccountColumn <;> simp

end Engine

/-! ## the filters of a load plan -/

namespace Step
variable {s : Step} {catalog : Catalog} {model : Table} {settings : QuerySettings} {plan : Plan}

/-- what the load of a step asks of a staging row, given the scope that the row lies in -/
structure Admits (s : Step) (model : Table) (settings : QuerySettings) (E : Engine) (scope : Scope)
    (row : Row) : Prop where
  recordType : ∀ t ∈ s.recordType, model.hasColumn "record_type" = true →
    row "record_type" = some t
  conditions : ∀ sql ∈ s.filters, E.raw sql scope = some true
  /-- a contact belongs to no person account, if the org has them and the staging table a mark -/
  businessContact : s.object = "Contact" → settings.personAccounts = true →
    model.hasColumn "IsPersonAccount" = true →
    ∀ mark ∈ row "IsPersonAccount", E.lower mark ≠ "true"

theorem admits_iff {E : Engine} {scope : Scope} {row : Row} :
    s.Admits model settings E scope row ↔
      ((∀ t ∈ s.recordType, model.hasColumn recordTypeColumn = true →
          row recordTypeColumn = some t) ∧
        ∀ sql ∈ s.filters, E.raw sql scope = some true) ∧
      (s.excludesPersonAccounts model settings = true →
        ∀ mark ∈ row Extender.personAccountColumn, E.lower mark ≠ "true") := by
  have hx : s.excludesPersonAccounts model settings = true ↔ s.object = "Contact" ∧
      settings.personAccounts = true ∧ model.hasColumn "IsPersonAccount" = true := by
    rw [excludesPersonAccounts, Bool.and_eq_true, Bool.and_eq_true, beq_iff_eq, and_assoc]
    rfl
  rw [hx, and_imp, and_imp]
  exact ⟨fun h => ⟨⟨h.recordType, h.conditions⟩, h.businessContact⟩,
    fun h => ⟨h.1.1, h.1.2, h.2⟩⟩

instance (E : Engine) (scope : Scope) (row : Row) :
    Decidable (s.Admits model settings E scope row) :=
  decidable_of_iff _ admits_iff.symm

/-- **The filters of a load plan have a truth value in every scope with a staging row, and they
select the scope exactly when the row is admitted.**  The row may lie in the scope by itself or
beside rows of joined tables. -/
theorem loadPlan_selects (hp : (s.loadPlan catalog model settings).outcome = .ok plan) (E : Engine)
    {scope : Scope} {row : Row} (hr : scope.row model.name = .ok row) :
    E.selects scope plan.filters = .ok (decide (s.Admits model settings E scope row)) := by
  obtain ⟨_, sites, _, added, _, rfl⟩ := loadPlan_eq_ok.mp hp
  have htype := Engine.selectsWhen_recordType (E := E) s hr
  have hconditions := Engine.selectsWhen_raw E scope s.filters
  have hpeople := Engine.SelectsWhen.ite (c := s.excludesPersonAccounts model settings = true)
    fun _ => Engine.selectsWhen_isBusinessContact (E := E) hr
  have hall : E.SelectsWhen scope (s.planOf model settings sites added).filters _ :=
    (htype.append hconditions).append hpeople
  exact (hall.congr admits_iff.symm).eq_decide

/-- rows beside the row of a joined table.  Those whose mark is NULL, empty or another text than
`true` are selected; a person account, rows of another record type or of none, and rows for which a
condition is false or unknown are not. -/
theorem loadPlan_selects_contacts :
    let s : Step := {
      object := "Contact"
      lookups := Roster.ofList [("AccountId", { table := "Account" })]
      filters := ["1 = 1", "name is short"]
      recordType := some "Client" }
    let model := ((Table.named "Contact").markKey "id").addColumns
      ["AccountId", "record_type", "IsPersonAccount"]
    let catalog := ({} : Catalog).addAll [.idMapping "Account"]
    let E : Engine := {
      lower := String.toLower
      raw := fun sql scope =>
        let name := scope.head?.bind fun bound => bound.2 "Name"
        if sql = "1 = 1" then some true else name.map fun n => n.length ≤ 3 }
    let client : List (String × String) := [("Name", "Roe"), ("record_type", "Client")]
    let rows : List Row := [client, ("IsPersonAccount", "") :: client,
        ("IsPersonAccount", "False") :: client, ("IsPersonAccount", " true") :: client,
        ("IsPersonAccount", "TRUE") :: client, ("record_type", "client") :: client,
        [("Name", "Roe")], ("Name", "Smith") :: client, [("record_type", "Client")]].map
      fun cells column => cells.lookup column
    ∃ plan, (s.loadPlan catalog model { personAccounts := true }).outcome = .ok plan ∧
      plan.filters.length = 4 ∧
      (rows.map fun row => E.selects [("Contact", row), ("t1", Row.nulls)] plan.filters) =
        [true, true, true, true, false, false, false, false, false].map .ok := by
  intro s model catalog E client rows
  have hf : (s.loadPlan catalog model { personAccounts := true }).outcome.toOption.map
      (fun plan => plan.filters.length) = some 4 := by
    decide +kernel
  obtain ⟨plan, hp, hf⟩ := toOption_map_eq_some.mp hf
  refine ⟨plan, hp, hf, ?_⟩
  have hrow : ∀ row ∈ rows, E.selects [("Contact", row), ("t1", Row.nulls)] plan.filters =
      .ok (decide (s.Admits model { personAccounts := true } E
        [("Contact", row), ("t1", Row.nulls)] row)) :=
    fun row _ => loadPlan_selects hp E (by rfl)
  rw [List.map_congr_left hrow]
  decide +kernel

end Step

end StagedLoad
