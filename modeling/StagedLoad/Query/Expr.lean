import StagedLoad.Staging.Dialect

/-!
# Expressions of a query

Columns, text values and the conditions made of them.  SQL that comes from outside is kept as it
is, in parentheses, and says nothing about the tables it mentions.
-/

namespace StagedLoad

inductive Expr where
  /-- a column of the table that the query calls by a name -/
  | column (qualifier column : String)
  | text (value : String)
  | raw (sql : String)
  | eq (left right : Expr)
  | ne (left right : Expr)
  | isNull (inner : Expr)
  | or (left right : Expr)
  | lower (inner : Expr)
  | castText (inner : Expr)
  deriving DecidableEq, Repr

namespace Expr

/-- the names that an expression uses for tables, from left to right -/
def qualifiers : Expr → List String
  | .column q _ => [q]
  | .text _ => []
  | .raw _ => []
  | .eq l r => l.qualifiers ++ r.qualifiers
  | .ne l r => l.qualifiers ++ r.qualifiers
  | .isNull e => e.qualifiers
  | .or l r => l.qualifiers ++ r.qualifiers
  | .lower e => e.qualifiers
  | .castText e => e.qualifiers

/-- the columns that an expression reads, each with its qualifier, from left to right -/
def columns : Expr → List (String × String)
  | .column q c => [(q, c)]
  | .text _ => []
  | .raw _ => []
  | .eq l r => l.columns ++ r.columns
  | .ne l r => l.columns ++ r.columns
  | .isNull e => e.columns
  | .or l r => l.columns ++ r.columns
  | .lower e => e.columns
  | .castText e => e.columns

/-- an expression in SQL; only a disjunction and SQL from outside are put in parentheses -/
def toSql (d : Dialect) : Expr → String
  | .column q c => d.quoteName q ++ "." ++ d.quoteName c
  | .text v => d.quoteText v
  | .raw sql => "(" ++ sql ++ ")"
  | .eq l r => l.toSql d ++ " = " ++ r.toSql d
  | .ne l r => l.toSql d ++ " <> " ++ r.toSql d
  | .isNull e => e.toSql d ++ " IS NULL"
  | .or l r => "(" ++ l.toSql d ++ " OR " ++ r.toSql d ++ ")"
  | .lower e => d.lower (e.toSql d)
  | .castText e => d.castToText (e.toSql d)

theorem qualifiers_eq (e : Expr) : e.qualifiers = e.columns.map Prod.fst := by
  induction e with
  | column q c => rfl
  | text v => rfl
  | raw s => rfl
  | eq l r hl hr => simp [qualifiers, columns, hl, hr]
  | ne l r hl hr => simp [qualifiers, columns, hl, hr]
  | isNull e h => simp [qualifiers, columns, h]
  | or l r hl hr => simp [qualifiers, columns, hl, hr]
  | lower e h => simp [qualifiers, columns, h]
  | castText e h => simp [qualifiers, columns, h]

end Expr

end StagedLoad
