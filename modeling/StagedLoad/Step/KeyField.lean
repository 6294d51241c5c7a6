import StagedLoad.Problem
import StagedLoad.Staging.Table
import StagedLoad.Step.Basic
import StagedLoad.Text.SnakeCase

/-!
# The column that holds the value of a lookup

The column is guessed: the one that the lookup names if it names one, else the one called like
the field; then the one called like the field; then the snake case of the first guess, as older
staging databases name their columns.  The first guess that the table has is the one
(`keyFieldIn_eq_ok_iff`).
-/

namespace StagedLoad.Lookup

/-- the guesses for the column of the lookup `name`, best first -/
def guesses (l : Lookup) (name : String) : List String :=
  match l.keyField with
  | none => [name, Text.snakeCase name]
  | some key => [key, name, Text.snakeCase key]

def keyFieldIn (l : Lookup) (name : String) (model : Table) : Except Problem String :=
  match (l.guesses name).find? model.hasColumn with
  | some column => .ok column
  | none => .error (.unknownKeyField model.name name (l.guesses name))

theorem guesses_eq (l : Lookup) (name : String) :
    l.guesses name = l.keyField.toList ++ [name, Text.snakeCase (l.keyField.getD name)] := by
  unfold guesses
  cases l.keyField <;> rfl

section
variable {l : Lookup} {name : String} {model : Table}

/-- the first guess that the table has is the column, whatever guesses follow it -/
theorem keyFieldIn_eq_ok_iff {column : String} :
    l.keyFieldIn name model = .ok column ↔
      ∃ before behind, l.guesses name = before ++ column :: behind ∧
        model.hasColumn column = true ∧ ∀ guess ∈ before, model.hasColumn guess = false := by
  have hfind : l.keyFieldIn name model = .ok column ↔
      (l.guesses name).find? model.hasColumn = some column := by
    unfold keyFieldIn
    cases (l.guesses name).find? model.hasColumn with
    | none => simp
    | some _ => simp
  rw [hfind, List.find?_eq_some_iff_append]
  constructor
  · rintro ⟨hc, before, behind, he, hb⟩
    exact ⟨before, behind, he, hc, fun guess hg => by simpa using hb guess hg⟩
  · rintro ⟨before, behind, he, hc, hb⟩
    exact ⟨hc, before, behind, he, fun guess hg => by simpa using hb guess hg⟩

/-- when the table has none of the guesses, all of them are blamed -/
theorem keyFieldIn_eq_error_iff {p : Problem} :
    l.keyFieldIn name model = .error p ↔
      (∀ guess ∈ l.guesses name, model.hasColumn guess = false) ∧
        p = .unknownKeyField model.name name (l.guesses name) := by
  have hnone : (l.guesses name).find? model.hasColumn = none ↔
      ∀ guess ∈ l.guesses name, model.hasColumn guess = false := by
    simp [List.find?_eq_none]
  rw [← hnone]
  unfold keyFieldIn
  cases (l.guesses name).find? model.hasColumn with
  | none => simp [eq_comm]
  | some _ => simp

theorem hasColumn_of_keyFieldIn {column : String} (h : l.keyFieldIn name model = .ok column) :
    model.hasColumn column = true := by
  obtain ⟨_, _, _, hc, _⟩ := keyFieldIn_eq_ok_iff.mp h
  exact hc

theorem keyFieldIn_of_hasColumn (h : model.hasColumn (l.keyField.getD name) = true) :
    l.keyFieldIn name model = .ok (l.keyField.getD name) := by
  have hg : ∃ behind, l.guesses name = [] ++ l.keyField.getD name :: behind := by
    unfold guesses
    cases l.keyField with
    | none => exact ⟨_, rfl⟩
    | some key => exact ⟨_, rfl⟩
  obtain ⟨behind, hg⟩ := hg
  exact keyFieldIn_eq_ok_iff.mpr ⟨[], behind, hg, h, fun _ hg => absurd hg List.not_mem_nil⟩

end

end StagedLoad.Lookup
