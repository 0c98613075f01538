import Selectivity.Entries
import Selectivity.Number.Word
import Selectivity.Table.Cell

/-!
# Frames

A frame is a table by columns. Each column has one kind of entry where that is possible: in a
column of numbers that are not all whole, all become 64-bit numbers, and in a column of texts the
empty value becomes a missing entry. The same is done to a row when it is looked at as a whole.
-/

namespace Selectivity

/-- A table by columns. -/
structure Frame where
  columns : List (String × List Cell)
  height : Nat
  deriving DecidableEq, Repr

namespace Frame

def empty : Frame :=
  ⟨[], 0⟩

/-- A text or an entry that misses. -/
def isOptionalText : Cell → Bool
  | .text _ => true
  | cell => cell.isMissing

/-- A number or an entry that misses. -/
def isOptionalNumber (cell : Cell) : Bool :=
  cell.isNumber || cell == .null

def isInteger : Cell → Bool
  | .integer _ => true
  | _ => false

def isFlag : Cell → Bool
  | .flag _ => true
  | _ => false

def integers (cells : List Cell) : List Int :=
  cells.filterMap fun cell =>
    match cell with
    | .integer value => some value
    | _ => none

/-- Does some number fit neither into 64 bits with a sign nor into 64 bits without one? -/
def exceedsWords (values : List Int) : Bool :=
  values.any fun value => value < -WordKind.signedLimit || WordKind.unsignedLimit ≤ value

/-- Do some numbers need a sign and others the bit in its place? -/
def needsBothWords (values : List Int) : Bool :=
  values.any (· < 0) && values.any (WordKind.signedLimit ≤ ·)

def fillNull : Cell → Cell
  | .null => .missing
  | cell => cell

/-- The entry in a column of 64-bit numbers. -/
def toReal : Cell → Cell
  | .integer value => .real (.ofInt value)
  | cell => fillNull cell

/-- Can the numbers of a column be 64-bit numbers? Its whole numbers have to fit into words of one
kind. -/
def fitsReals (cells : List Cell) : Bool :=
  !exceedsWords (integers cells) && !needsBothWords (integers cells)

/-- Gives a column one kind of entry where that is possible. Whole numbers alone stay as they
are, and so do empty values alone. -/
def settle (cells : List Cell) : List Cell :=
  if cells.all (· == .null) || cells.all isInteger then cells
  else if cells.all isOptionalText then cells.map fillNull
  else if cells.all isOptionalNumber && fitsReals cells then cells.map toReal
  else cells

/-- The kind of word in which a column holds its entries, unless it has none. -/
def wordKind? (cells : List Cell) : Option WordKind :=
  if cells.all isInteger then
    if exceedsWords (integers cells) || needsBothWords (integers cells) then none
    else if (integers cells).any (WordKind.signedLimit ≤ ·) then some .unsigned
    else some .signed
  else if cells.all fun cell => cell.isNumber && !isInteger cell then some .real
  else if cells.all isFlag then some .truth
  else none

/-- The entries of one name, or nothing if a row lacks it. -/
def gather? (rows : List (List (String × Cell))) (name : String) : Option (List Cell) :=
  rows.mapM fun row => Entries.get? row name

/-- The table of rows that name their entries. The first row tells the columns; nothing results
if another row lacks one of them. A table without columns has no rows. -/
def ofRows? : List (List (String × Cell)) → Option Frame
  | [] => some empty
  | [] :: _ => some empty
  | first :: rest =>
      ((Entries.names first).mapM fun name =>
          (gather? (first :: rest) name).map fun cells => (name, settle cells)).map
        fun columns => ⟨columns, (first :: rest).length⟩

/-- The entries of a row, in the order of the columns. -/
def row (frame : Frame) (index : Nat) : List Cell :=
  frame.columns.filterMap fun column => column.2[index]?

def rows (frame : Frame) : List (List Cell) :=
  (List.range frame.height).map frame.row

/-- The kind of word in which a row that is looked at as a whole holds its entries, unless it has
none. -/
def rowKind? (frame : Frame) : Option WordKind :=
  (frame.columns.mapM fun column => wordKind? column.2).bind WordKind.common?

/-- The entry of a row that is looked at as a whole: in a row of texts the empty value becomes a
missing entry. -/
def cellInRow (frame : Frame) (index : Nat) (cell : Cell) : Cell :=
  if (frame.row index).all isOptionalText then fillNull cell else cell

/-- The entries of a column as they are found in their rows. -/
def cellsInRows (frame : Frame) (cells : List Cell) : List Cell :=
  if frame.rowKind? = some .real then cells.map toReal else cells.mapIdx frame.cellInRow

end Frame

end Selectivity
