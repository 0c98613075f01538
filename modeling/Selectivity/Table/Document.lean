import Selectivity.Json.Display
import Selectivity.Table.Frame

/-!
# Frames as JSON

The rows of a frame can be given as objects that name their entries. A document as a whole can be
a table in two ways: a list of such rows, which need not name the same entries, or an object of
columns, each of which is a list of entries or an object that names the rows. A frame is written as
the list of its columns and the list of its rows, where an entry that misses is the empty value and
a 64-bit number that is whole is written as a whole number.
-/

namespace Selectivity

def Binary64.document (value : Binary64) : Json :=
  match value.exactWhole? with
  | some whole => .integer whole
  | none => .real value.standardForm

def Cell.document : Cell → Json
  | .missing => .null
  | .null => .null
  | .integer value => .integer value
  | .real value => value.document
  | .text value => .string value
  | .flag value => .boolean value
  | .compound value => value

namespace Frame

/-- The named entries of the row that a document describes. -/
def rowOfDocument : Json → List (String × Cell)
  | .object members => members.map fun (name, value) => (name, Cell.ofValue value)
  | _ => []

/-- The frame of the rows that documents describe, unless a row lacks a column. -/
def ofDocuments? (documents : List Json) : Option Frame :=
  ofRows? (documents.map rowOfDocument)

/-- The names of the members of several objects, in the order in which they are found first. -/
def firstNames {α : Type} (objects : List (List (String × α))) : List String :=
  Entries.names (Entries.ofList objects.flatten)

/-- The frame of rows that need not name the same entries. -/
def ofRecords (rows : List (List (String × Cell))) : Frame :=
  ⟨(firstNames rows).map fun name =>
      (name, settle (rows.map fun row => (Entries.get? row name).getD .missing)),
    rows.length⟩

/-- The number of rows of columns that are lists, if there is one and all agree on it. -/
def commonLength? (columns : List Json) : Option Nat :=
  match (columns.filterMap Json.items?).map List.length with
  | [] => none
  | first :: rest => if rest.all (· == first) then some first else none

/-- The entries of a column that is a list, or that has one entry for all rows. -/
def listedColumn (height : Nat) : Json → List Cell
  | .array items => items.map Cell.ofValue
  | value => List.replicate height (.ofValue value)

/-- The entries of a column that names its rows, or that has one entry for all of them. -/
def namedColumn (rows : List String) : Json → List Cell
  | .object members =>
      rows.map fun row => ((Entries.get? members row).map Cell.ofValue).getD .missing
  | value => List.replicate rows.length (.ofValue value)

/-- The frame of the columns that the members of an object are. Lists and objects do not go
together, and one of them is needed. -/
def ofColumns? (members : List (String × Json)) : Option Frame :=
  let columns := members.map Prod.snd
  let rows := firstNames (columns.filterMap Json.members?)
  if members.isEmpty then some empty
  else if columns.all fun column => !column.isCompound then none
  else if columns.all fun column => column.members?.isNone then
    (commonLength? columns).map fun height =>
      ⟨members.map fun (name, column) => (name, settle (listedColumn height column)), height⟩
  else if columns.any fun column => column.items?.isSome then none
  else
    some ⟨members.map fun (name, column) => (name, settle (namedColumn rows column)), rows.length⟩

/-- The frame that a document is, if it is a table. -/
def ofTable? : Json → Option Frame
  | .null => some empty
  | .array documents => some (ofRecords (documents.map rowOfDocument))
  | .object members => ofColumns? members
  | _ => none

/-- An entry as text, unless it misses. -/
def textCell (cell : Cell) : Cell :=
  if cell.isMissing then .missing else .text cell.label.display

/-- The frame with some of its columns as text. -/
def withTexts (frame : Frame) (isText : String → Bool) : Frame :=
  { frame with
    columns := frame.columns.map fun (name, cells) =>
      (name, if isText name then cells.map textCell else cells) }

def document (frame : Frame) : Json :=
  .object [("columns", .array ((Entries.names frame.columns).map Json.string)),
    ("rows", .array (frame.rows.map fun row => .array (row.map Cell.document)))]

end Frame

end Selectivity
