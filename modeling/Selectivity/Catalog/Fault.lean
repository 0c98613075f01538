import Selectivity.Folder
import Selectivity.Json.Reader
import Selectivity.Statistics.Attribute
import Selectivity.Table.Cell
import Selectivity.Table.Csv

/-!
# Faults of a catalogue

Why the rows of a table, a document or a file are no catalogue.
-/

namespace Selectivity

/-- Why something is no catalogue. -/
inductive CatalogFault where
  | noPath
  | file (fault : FileFault)
  /-- The suffix, in lower case, is not one of a catalogue. -/
  | unsupportedCatalog (suffix : String)
  /-- The suffix, as written, is not one of a table. -/
  | unsupportedTable (suffix : String)
  | table (fault : Csv.Fault)
  /-- The text of a JSON file is no table. -/
  | noTable
  | missingColumn
  /-- An entry is a list of which it cannot be told whether it misses. -/
  | unclearEntry
  | count (fault : CountFault)
  | document (fault : Json.ReadFault)
  | notAnObject
  | missingMember
  | wrongKind
  | statistic (fault : StatisticFault)
  deriving DecidableEq, Repr

/-- The text for a format that is not known. -/
def unsupportedFormatMessage (what suffix : String) : String :=
  "Unsupported " ++ what ++ " format: '" ++ suffix ++ "'"

/-- The text that tells the fault, if it has one. -/
def CatalogFault.message? : CatalogFault → Option String
  | .unsupportedCatalog suffix => some (unsupportedFormatMessage "catalog" suffix)
  | .unsupportedTable suffix => some (unsupportedFormatMessage "data frame" suffix)
  | .statistic fault => fault.message?
  | _ => none

end Selectivity
