/-!
# Problems

What can go wrong while a mapping is generated or a query is composed, and the words for it.
-/

namespace StagedLoad

/-- a table was asked for that the catalog does not have -/
structure CatalogMiss where
  table : String
  deriving DecidableEq, Repr

def CatalogMiss.message (m : CatalogMiss) : String :=
  "table '" ++ m.table ++ "' not found in store metadata"

inductive Problem where
  | unknownObject (object : String)
  | unknownField (object field : String)
  | noRecordTypes (table : String) (miss : CatalogMiss)
  | notInCatalog (miss : CatalogMiss)
  | unknownColumn (table column : String)
  /-- none of the guesses for the column of a lookup is in the staging table -/
  | unknownKeyField (table lookup : String) (guesses : List String)
  /-- an object has two steps -/
  | repeatedStep (object : String)
  | badMapping (detail : String)
  /-- rows of person accounts are kept out of contacts only -/
  | notContact (object : String)
  deriving DecidableEq, Repr

namespace Problem

def message : Problem → String
  | .unknownObject object => "Unknown SObject in schema: " ++ object
  | .unknownField object field =>
    "Field '" ++ field ++ "' on object '" ++ object ++ "' was not found in the org schema"
  | .noRecordTypes table miss =>
    "A record type mapping table '" ++ table ++ "' was not found in your dataset. " ++
      "Was it generated by the extract step? (" ++ miss.message ++ ")"
  | .notInCatalog miss => miss.message
  | .unknownColumn table column => "Column '" ++ column ++ "' not found on table '" ++ table ++ "'"
  | .unknownKeyField table lookup guesses =>
    "Could not find a key field for lookup '" ++ lookup ++ "' on table '" ++ table ++
      "' (tried: " ++ String.intercalate ", " guesses ++ ")"
  | .repeatedStep object =>
    "Object '" ++ object ++ "' has more than one load step; declare each object once"
  | .badMapping detail => "Invalid mapping file: " ++ detail
  | .notContact object => "person account filter only applies to Contact, not to " ++ object

def cause? : Problem → Option CatalogMiss
  | .noRecordTypes _ miss => some miss
  | _ => none

end Problem

end StagedLoad
