import Selectivity.Table.Csv.Column
import Selectivity.Table.Frame

/-!
# Tables in comma-separated text

The first record of a text names the columns, and the others are rows. The columns that are asked
to be text are read as they stand, and the others get a type each. A mark for the byte order in
front of the text does not count.
-/

namespace Selectivity.Csv

/-- The text without a byte order mark. -/
def dropMark : List Char → List Char
  | [] => []
  | character :: rest => if character = '\uFEFF' then rest else character :: rest

/-- A column of the given fields. It is text if that is asked of its name, or of the name that it
had before it got a number. -/
def column (isText : String → Bool) (written name : String) (fields : List (Option String)) :
    String × List Cell :=
  (name, if isText written || isText name then textColumn fields else typedColumn fields)

/-- The columns below a first record. The given number of fields in front of each row are its
labels and are left out. -/
def columns (isText : String → Bool) (header : Record) (labels : Nat) (rows : List Record) :
    List (String × List Cell) :=
  ((header.mapIdx columnName).zip (columnNames header)).mapIdx fun index (written, name) =>
    column isText written name (rows.map fun row => fieldAt row (labels + index))

/-- Reads a table. Short records are filled up with missing entries. If the first record below
the names is longer than these, the fields in front are labels of rows. -/
def frame (isText : String → Bool) (text : List Char) : Except Fault Frame :=
  match records (dropMark text) with
  | .error fault => .error fault
  | .ok [] => .error .emptyFile
  | .ok (header :: rows) =>
      let labels := (rows.head?.getD []).length - header.length
      if rows.any fun row => header.length + labels < row.length then .error .raggedRecord
      else .ok ⟨columns isText header labels rows, rows.length⟩

end Selectivity.Csv
