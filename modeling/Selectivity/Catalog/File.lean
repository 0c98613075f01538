import Selectivity.Catalog.Document
import Selectivity.Catalog.Rows
import Selectivity.Folder
import Selectivity.Json.Reader
import Selectivity.Table.Csv
import Selectivity.Table.Document
import Selectivity.Text.FileName
import Selectivity.Text.LowerCase

/-!
# Catalogue files

A catalogue is read from a file of comma-separated rows or from a JSON file; the suffix of the
path tells which. The suffix is looked at before the file is. A JSON file is looked for at the
path as it is written, and a file of rows at the path without the parts that do not count. A JSON
file can hold a table instead of a catalogue, and is then read like a file of rows.
-/

namespace Selectivity

/-- The suffix of a path as written. -/
def pathSuffix (path : String) : String :=
  String.ofList (Text.suffix path.toList)

/-- The suffix of a path in lower case. -/
def pathFormat (path : String) : String :=
  String.ofList (Text.lower (Text.suffix path.toList))

namespace Files

def characters (files : Files) (path : String) : Except CatalogFault (List Char) :=
  match files path with
  | .ok content => .ok content.toList
  | .error fault => .error (.file fault)

/-- The table that the text of a JSON file is. -/
def documentTable (isText : String → Bool) (text : List Char) : Except CatalogFault Frame :=
  match Json.read text with
  | .error _ => .error .noTable
  | .ok document =>
      match Frame.ofTable? document with
      | none => .error .noTable
      | some frame => .ok (frame.withTexts isText)

/-- The table in a file of comma-separated rows or in a JSON file. -/
def table (files : Files) (isText : String → Bool) (path : String) :
    Except CatalogFault Frame :=
  let file := files.characters (String.ofList (Text.normalPath path.toList))
  if pathFormat path = ".csv" then
    match file with
    | .error fault => .error fault
    | .ok text => (Csv.frame isText text).mapError .table
  else if pathFormat path = ".json" then
    match file with
    | .error fault => .error fault
    | .ok text => documentTable isText text
  else .error (.unsupportedTable (pathSuffix path))

end Files

/-- How the format of a catalogue file is chosen. -/
inductive CatalogFormat where
  | bySuffix
  | rows (columns : CatalogColumns)
  | document
  deriving DecidableEq, Repr

namespace Catalog

/-- The catalogue in a file of comma-separated rows. The names are text, whatever they look
like. -/
def ofTableFile (columns : CatalogColumns) (files : Files) (path : String) :
    Except CatalogFault (Catalog Relation) :=
  match files.table (fun name => name == columns.relation || name == columns.attributes) path with
  | .error fault => .error fault
  | .ok frame => ofFrame columns frame

/-- The catalogue in a JSON file, with a limit for the digits of a count. -/
def ofDocumentFile (limit : Option Nat) (files : Files) (path : String) :
    Except CatalogFault (Catalog Relation) :=
  match files.characters path with
  | .error fault => .error fault
  | .ok text =>
      match Json.readWithin limit text with
      | .error fault => .error (.document fault)
      | .ok document => ofDocument document

/-- The catalogue in a file, with a limit for the digits of a count in a JSON file. -/
def ofFileWithin (limit : Option Nat) (format : CatalogFormat) (files : Files) (path : String) :
    Except CatalogFault (Catalog Relation) :=
  match format with
  | .rows columns => ofTableFile columns files path
  | .document => ofDocumentFile limit files path
  | .bySuffix =>
      if pathFormat path = ".csv" then ofTableFile .standard files path
      else if pathFormat path = ".json" then ofDocumentFile limit files path
      else .error (.unsupportedCatalog (pathFormat path))

def ofFile (format : CatalogFormat) (files : Files) (path : String) :
    Except CatalogFault (Catalog Relation) :=
  ofFileWithin (some Text.digitLimit) format files path

end Catalog

end Selectivity
