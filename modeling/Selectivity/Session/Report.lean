import Selectivity.Query.Compilation
import Selectivity.Session.Fault
import Selectivity.Store.Estimation
import Selectivity.Text.Quoted

/-!
# Reports

What an operation answers: a result or a fault, the warnings on the way, and the lines of the log
of an operation that tells its progress.
-/

namespace Selectivity

/-- The result of an operation. -/
inductive Outcome where
  | attribute (ref : AttributeRef)
  | relation (ref : RelationRef)
  | node (ref : NodeRef)
  | catalog (ref : CatalogRef)
  | done
  deriving DecidableEq, Repr

/-- A line of the log. -/
inductive LogEntry where
  /-- A node, given by its caption, was estimated. -/
  | estimated (caption : String) (output : Relation)
  | repeatedSource (name : String)
  | skippedLine (line : String) (expected : Query.Expectation)
  deriving DecidableEq, Repr

/-- The text of a line of the log. -/
def LogEntry.render : LogEntry → String
  | .estimated caption output => "Estimated " ++ caption ++ " :: " ++ output.render
  | .repeatedSource name => "Skipping duplicate relation " ++ name
  | .skippedLine line expected =>
      "Skipping line " ++ Text.quotedText line ++ " - expected " ++ expected.render

/-- The line of the log for an estimate that was made. -/
def Computed.logEntry (computed : Computed) : LogEntry :=
  .estimated computed.placed.operator.caption computed.output

namespace Query.Notice

/-- The relation that a notice warns of, if it is a warning. -/
def warning? : Notice → Option String
  | .unknownRelation name => some name
  | _ => none

/-- The line of the log for a notice, if it has one. -/
def logEntry? : Notice → Option LogEntry
  | .repeatedSource name => some (.repeatedSource name)
  | .skippedLine line expected => some (.skippedLine line expected)
  | .unknownRelation _ => none

end Query.Notice

/-- The text of the warning that a relation is left out. -/
def warningMessage (relation : String) : String :=
  "Skipping relation '" ++ relation ++ "': " ++ unknownRelationMessage relation

/-- What an operation answers. -/
structure Report where
  result : Except Fault Outcome
  warnings : List String
  log : List LogEntry

namespace Report

/-- A result without warnings and without a log. -/
def ofResult (result : Except Fault Outcome) : Report :=
  ⟨result, [], []⟩

def success (outcome : Outcome) : Report :=
  ofResult (.ok outcome)

def failure (fault : Fault) : Report :=
  ofResult (.error fault)

end Report

end Selectivity
