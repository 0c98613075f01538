import Selectivity.Query.Canonical
import Selectivity.Query.Script

/-!
# Compilation

A script becomes a canonical plan by looking up its relations, in the order in which the query
mentions them. A strict compilation ends at the first relation that is missing; any other leaves
it out with a notice, and ends only if no relation of the FROM clause is left.
-/

namespace Selectivity.Query

/-- Something that a compilation passes over. -/
inductive Notice where
  | repeatedSource (name : String)
  | skippedLine (line : String) (expected : Expectation)
  | unknownRelation (name : String)
  deriving DecidableEq, Repr

/-- What was passed over, in order, and the plan or the fault that came of it. -/
structure Compilation (Base : Type) where
  notices : List Notice
  outcome : Except QueryFault (CanonicalPlan Base)

variable {Base : Type}

/-- The scans of the names in a FROM clause. -/
def findSources (lookup : String → Option Base) (strict : Bool) :
    List Source → List Notice × Except QueryFault (List (BaseScan Base))
  | [] => ([], .ok [])
  | .repeated name :: rest =>
      let (notices, found) := findSources lookup strict rest
      (.repeatedSource name :: notices, found)
  | .fresh name :: rest =>
      match lookup name with
      | some base =>
          let (notices, found) := findSources lookup strict rest
          (notices, found.map fun scans => ⟨name, base⟩ :: scans)
      | none =>
          if strict then ([], .error (.unknownRelation name))
          else
            let (notices, found) := findSources lookup strict rest
            (.unknownRelation name :: notices, found)

/-- The joins of the lines in a body. -/
def findJoins (lookup : String → Option Base) (strict : Bool) :
    List BodyLine → List Notice × Except QueryFault (List (JoinGroup Base))
  | [] => ([], .ok [])
  | .skipped line expected :: rest =>
      let (notices, found) := findJoins lookup strict rest
      (.skippedLine line expected :: notices, found)
  | .join name conditions :: rest =>
      match lookup name with
      | some base =>
          let (notices, found) := findJoins lookup strict rest
          (notices, found.map fun groups => ⟨⟨name, base⟩, conditions⟩ :: groups)
      | none =>
          if strict then ([], .error (.unknownRelation name))
          else
            let (notices, found) := findJoins lookup strict rest
            (.unknownRelation name :: notices, found)

def Script.compile (script : Script) (lookup : String → Option Base) (strict : Bool) :
    Compilation Base :=
  match findSources lookup strict script.sources with
  | (notices, .error fault) => ⟨notices, .error fault⟩
  | (notices, .ok []) =>
      ⟨notices,
        .error (.unknownRelation ((script.sources.getLast?.map Source.name).getD ""))⟩
  | (notices, .ok (first :: others)) =>
      match findJoins lookup strict script.body with
      | (more, .error fault) => ⟨notices ++ more, .error fault⟩
      | (more, .ok joins) =>
          ⟨notices ++ more,
            script.ending.map fun selections =>
              ⟨script.projection, first, others, joins, selections⟩⟩

def compile (lookup : String → Option Base) (strict : Bool) (text : List Char) :
    Compilation Base :=
  match Script.ofText text with
  | .ok script => script.compile lookup strict
  | .error fault => ⟨[], .error fault⟩

end Selectivity.Query
