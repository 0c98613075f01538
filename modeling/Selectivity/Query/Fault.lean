/-!
# Faults of a query

Why a query is refused. The faults of a clause or a condition carry the text in question.
-/

namespace Selectivity

/-- Why a query is refused. -/
inductive QueryFault where
  | tooFewLines
  | selectExpected (line : String)
  | attributeName (line : String)
  | fromExpected (line : String)
  | relationName (line : String)
  | joinExpected (line : String)
  | whereExpected (line : String)
  | joinPredicate (item : String)
  | wherePredicate (item : String)
  | repeatedRelation (name : String)
  | unknownRelation (name : String)
  deriving DecidableEq, Repr

namespace QueryFault

/-- The problem with a clause or a condition, if the fault is one of these. -/
def problem? : QueryFault → Option String
  | .tooFewLines => some "Query requires at least a SELECT and a FROM line"
  | .selectExpected _ => some "Expected SELECT clause"
  | .attributeName _ => some "Invalid attribute name in SELECT clause"
  | .fromExpected _ => some "Expected FROM clause"
  | .relationName _ => some "Invalid relation name in FROM clause"
  | .joinExpected _ => some "Expected JOIN <relation> ON <predicates>"
  | .whereExpected _ => some "Expected WHERE <predicates>"
  | .joinPredicate _ => some "Invalid JOIN predicate"
  | .wherePredicate _ => some "Invalid WHERE predicate"
  | .repeatedRelation _ => none
  | .unknownRelation _ => none

/-- The clause or condition in question, if there is one. -/
def line? : QueryFault → Option String
  | .tooFewLines => none
  | .selectExpected line => some line
  | .attributeName line => some line
  | .fromExpected line => some line
  | .relationName line => some line
  | .joinExpected line => some line
  | .whereExpected line => some line
  | .joinPredicate item => some item
  | .wherePredicate item => some item
  | .repeatedRelation _ => none
  | .unknownRelation _ => none

end QueryFault

/-- The text of a problem, with the line in question if there is one. -/
def problemMessage (problem : String) : (line? : Option String) → String
  | none => problem
  | some line => problem ++ ": '" ++ line ++ "'"

/-- The text that tells a relation that is not in the catalogue. -/
def unknownRelationMessage (name : String) : String :=
  "Relation '" ++ name ++ "' not found in catalog"

/-- The text that tells a relation that a query joins a second time. -/
def repeatedRelationMessage (name : String) : String :=
  "Relation '" ++ name ++ "' cannot be repeated in JOIN"

/-- The text that tells why a query is refused. -/
def QueryFault.message : QueryFault → String
  | .repeatedRelation name => repeatedRelationMessage name
  | .unknownRelation name => unknownRelationMessage name
  | fault => problemMessage (fault.problem?.getD "") fault.line?

end Selectivity
