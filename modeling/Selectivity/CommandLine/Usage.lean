import Selectivity.Text.Quoted

/-!
# Usage

The options of the command line, and the texts that tell how it is used and how it was misused.
-/

namespace Selectivity.CommandLine

/-- What an option stands for. -/
inductive Choice where
  | help
  /-- The file of the catalogue; the only option with an argument. -/
  | catalog
  | json
  | strict
  | verbose
  deriving DecidableEq, Repr

/-- The options under all of their names. -/
def optionNames : List (String × Choice) :=
  [("-h", .help), ("--help", .help), ("--catalog", .catalog), ("-c", .catalog),
   ("--json", .json), ("--strict", .strict), ("--verbose", .verbose)]

def choice? (name : String) : Option Choice :=
  (optionNames.find? fun option => option.1 == name).map Prod.snd

def Choice.label (choice : Choice) : String :=
  String.intercalate "/" ((optionNames.filter fun option => option.2 == choice).map Prod.fst)

/-- How the command line was misused. -/
inductive Misuse where
  | ambiguous (written : String) (names : List String)
  | argumentExpected (choice : Choice)
  | argumentIgnored (choice : Choice) (argument : String)
  | missing (names : List String)
  | unrecognized (arguments : List String)
  deriving DecidableEq, Repr

def Misuse.message : Misuse → String
  | .ambiguous written names =>
      "ambiguous option: " ++ written ++ " could match " ++ String.intercalate ", " names
  | .argumentExpected choice => "argument " ++ choice.label ++ ": expected one argument"
  | .argumentIgnored choice argument =>
      "argument " ++ choice.label ++ ": ignored explicit argument " ++
        Text.quotedText argument
  | .missing names => "the following arguments are required: " ++ String.intercalate ", " names
  | .unrecognized arguments => "unrecognized arguments: " ++ String.intercalate " " arguments

/-- The line that shows how the command line is used. -/
def usageLine : String :=
  "usage: relest [-h] --catalog CATALOG [--json] [--strict] [--verbose] query\n"

def Misuse.report (misuse : Misuse) : String :=
  usageLine ++ "relest: error: " ++ misuse.message ++ "\n"

def helpText : String :=
  usageLine ++ "
Compile a canonical query and estimate the statistics of each plan node. The
query is read from a file (or stdin if '-' is given). The statistics of the
base relations are read from a catalog file in CSV or JSON format.

positional arguments:
  query                 File containing the canonical query. Use '-' to read
                        from stdin.

options:
  -h, --help            show this help message and exit
  --catalog CATALOG, -c CATALOG
                        Path to the catalog file. The format is inferred from
                        the file suffix (.csv or .json).
  --json                Print the estimated plan as JSON instead of a tree.
  --strict              Abort if a relation is not contained in the catalog,
                        instead of skipping it.
  --verbose             Print progress information
"

end Selectivity.CommandLine
