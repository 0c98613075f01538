import Selectivity.CommandLine.Settings
import Selectivity.Json.Writer
import Selectivity.Plan.Document
import Selectivity.Plan.Outline
import Selectivity.Session.Operation

/-!
# Runs

A run of the command line loads a catalogue, compiles a query strictly or not, estimates the plan
and prints it. A query that is refused or has no estimate ends the run with one line on the error
output. A catalogue that cannot be loaded and a file that is missing are faults of the run itself.
-/

namespace Selectivity.CommandLine

/-- What a run finds around it. -/
structure Surroundings where
  files : Files
  standardInput : String

/-- A line of the error output. -/
inductive ErrorLine where
  | logged (entry : LogEntry)
  | plain (text : String)
  deriving DecidableEq, Repr

/-- How a run ended. -/
structure Completion where
  exit : Nat
  output : String
  errors : List ErrorLine
  warnings : List String
  deriving DecidableEq, Repr

/-- The kind of a fault for which a run ends with one line. -/
def faultKind? : Fault → Option String
  | .query (.repeatedRelation _) => some "DuplicateRelation"
  | .query (.unknownRelation _) => some "RelationNotFound"
  | .query (.joinPredicate _) => some "MalformedPredicate"
  | .query (.wherePredicate _) => some "MalformedPredicate"
  | .query _ => some "MalformedClause"
  | .estimate (.missingAttribute _) => some "AttributeNotFound"
  | .statistic fault => if fault.isTold then some "InvalidStatistic" else none
  | _ => none

/-- How a run broke off. -/
structure Breakdown where
  fault : Fault
  warnings : List String
  deriving DecidableEq, Repr

/-- The end of a run for a fault, after what was logged before it. -/
def Completion.ofFault (fault : Fault) (log : List LogEntry) (warnings : List String) :
    Except Breakdown Completion :=
  match faultKind? fault with
  | none => .error ⟨fault, warnings⟩
  | some kind =>
      .ok ⟨1, "", log.map .logged ++ [.plain (kind ++ ": " ++ fault.message?.getD "" ++ "\n")],
        warnings⟩

/-- What is printed of an estimated plan, if it can be told. -/
def printed? (json : Bool) (plan : Plan) : Option String :=
  (if json then some (plan.document.render ⟨some 2, true⟩) else plan.outline?).map (· ++ "\n")

/-- Estimates the compiled query and prints it. -/
def finish (settings : Settings) (session : Session) (node : NodeRef) (log : List LogEntry)
    (warnings : List String) : Except Breakdown Completion :=
  let (after, report) := session.perform (.estimate node settings.verbose)
  match report.result with
  | .error fault => Completion.ofFault fault (log ++ report.log) warnings
  | .ok _ =>
      match after.store.node? node with
      | none => .error ⟨.unknownReference, warnings⟩
      | some root =>
          match printed? settings.json (after.store.plan root) with
          | none => .error ⟨.estimate .unwritable, warnings⟩
          | some text => .ok ⟨0, text, (log ++ report.log).map .logged, warnings⟩

/-- Compiles and estimates a query against a catalogue. -/
def answer (settings : Settings) (session : Session) (catalog : CatalogRef)
    (input : Query.Input) : Except Breakdown Completion :=
  let compiler : Compiler := ⟨catalog, some settings.strict, settings.verbose⟩
  let (session, report) := session.perform (.compile compiler input)
  match report.result with
  | .error fault => Completion.ofFault fault report.log report.warnings
  | .ok (.node node) => finish settings session node report.log report.warnings
  | .ok _ => .error ⟨.unknownReference, report.warnings⟩

/-- The text of the query. A lone dash stands for the standard input. -/
def queryInput (surroundings : Surroundings) (path : String) : Except FileFault Query.Input :=
  if path = "-" then .ok (.stream surroundings.standardInput)
  else (surroundings.files path).map .stream

/-- A run with a catalogue at a path. -/
def executeAt (path : String) (surroundings : Surroundings) (session : Session)
    (settings : Settings) : Except Breakdown Completion :=
  let (session, report) :=
    session.perform (.loadCatalog .bySuffix surroundings.files path)
  match report.result with
  | .error fault => .error ⟨fault, []⟩
  | .ok (.catalog catalog) =>
      match queryInput surroundings settings.query with
      | .error fault => .error ⟨.catalog (.file fault), []⟩
      | .ok input => answer settings session catalog input
  | .ok _ => .error ⟨.unknownReference, []⟩

def execute (surroundings : Surroundings) (session : Session) (settings : Settings) :
    Except Breakdown Completion :=
  match settings.catalog with
  | some path => executeAt path surroundings session settings
  | none => .error ⟨.catalog .noPath, []⟩

def run (surroundings : Surroundings) (session : Session) (words : List String) :
    Except Breakdown Completion :=
  match Settings.ofWords words with
  | .error .help => .ok ⟨0, helpText, [], []⟩
  | .error (.misuse misuse) => .ok ⟨2, "", [.plain misuse.report], []⟩
  | .ok settings => execute surroundings session settings

end Selectivity.CommandLine
