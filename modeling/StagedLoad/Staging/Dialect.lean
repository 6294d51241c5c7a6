import StagedLoad.Text.Quoted

/-!
# SQL dialects

The two databases that can hold the staging tables, and where their SQL differs.  Names and text
values are quoted alike in both.
-/

namespace StagedLoad

inductive Dialect where
  | postgres
  | sqlite
  deriving DecidableEq, Repr, Inhabited

namespace Dialect

def name : Dialect → String
  | .postgres => "postgres"
  | .sqlite => "sqlite"

def textType : Dialect → String
  | .postgres => "VARCHAR"
  | .sqlite => "TEXT"

/-- the word that makes a dropped table take along what depends on it -/
def dropSuffix? : Dialect → Option String
  | .postgres => some "CASCADE"
  | .sqlite => none

def quoteName (_ : Dialect) (name : String) : String := Text.quoted '"' name

def quoteText (_ : Dialect) (value : String) : String := Text.quoted '\'' value

def castToText (d : Dialect) (sql : String) : String :=
  "CAST(" ++ sql ++ " AS " ++ d.textType ++ ")"

def lower (_ : Dialect) (sql : String) : String := "LOWER(" ++ sql ++ ")"

theorem toList_quoteName (d : Dialect) (name : String) :
    (d.quoteName name).toList = Text.quotedChars '"' name.toList := Text.toList_quoted '"' name

theorem toList_quoteText (d : Dialect) (value : String) :
    (d.quoteText value).toList = Text.quotedChars '\'' value.toList := Text.toList_quoted '\'' value

end Dialect

end StagedLoad
