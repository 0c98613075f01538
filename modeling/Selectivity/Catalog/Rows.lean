import Selectivity.Catalog.Basic
import Selectivity.Catalog.Fault
import Selectivity.Statistics.Relation
import Selectivity.Table.Frame

/-!
# Catalogues as rows

A table of a catalogue has a row for each attribute, which repeats the name and the size of its
relation; a relation without attributes has one row in which the attribute is missing. Rows of
one relation need not stand together. The first of them tells the size, and relations come in the
order of their first rows.
-/

namespace Selectivity

/-- The columns in which the parts of a catalogue stand. -/
structure CatalogColumns where
  relation : String
  tuples : String
  attributes : String
  values : String
  deriving DecidableEq, Repr

def CatalogColumns.standard : CatalogColumns :=
  ⟨"relation", "tuple_count", "attribute", "value_count"⟩

/-- An entry, or the fault of needing one in a column that is missing. -/
abbrev Entry := Except CatalogFault Cell

namespace Entry

def count (entry : Entry) : Except CatalogFault Int :=
  match entry with
  | .ok cell => cell.count.mapError .count
  | .error fault => .error fault

end Entry

/-- A row of a catalogue. Only the name of the relation is needed in every row. -/
structure CatalogRow where
  relation : Cell
  tuples : Entry
  column : Entry
  /-- The kind of word in which the row holds its entries, if it holds them in words. -/
  word : Option WordKind
  values : Entry

namespace CatalogRow

/-- The entries of one column, if there is one of that name, each as it is found by the given
look. -/
def entries (frame : Frame) (look : List Cell → List Cell) (name : String) : List Entry :=
  match Entries.get? frame.columns name with
  | some cells => (look cells).map .ok
  | none => List.replicate frame.height (.error .missingColumn)

/-- The rows of a table. The number of tuples is looked up in its column, and the attribute in the
row. -/
def ofFrame (columns : CatalogColumns) (frame : Frame) :
    Except CatalogFault (List CatalogRow) :=
  match Entries.get? frame.columns columns.relation with
  | none => .error .missingColumn
  | some relations =>
      .ok (List.zipWith (fun relation others => ⟨relation, others.1, others.2.1, frame.rowKind?, others.2.2⟩)
        relations
        ((entries frame id columns.tuples).zip
          ((entries frame frame.cellsInRows columns.attributes).zip
            (entries frame frame.cellsInRows columns.values))))

/-- The attribute of a row, if it has one. -/
def attribute? (row : CatalogRow) : Except CatalogFault (Option Attribute) :=
  match row.column with
  | .error fault => .error fault
  | .ok name =>
      match name.misses? with
      | none => .error .unclearEntry
      | some true => .ok none
      | some false =>
          match row.values.count with
          | .error fault => .error fault
          | .ok count => ((Attribute.ofCount ⟨name.label, row.word⟩ count).mapError .statistic).map some

/-- The attributes of rows in order, up to the first fault. -/
def attributes : List CatalogRow → Except CatalogFault (List Attribute)
  | [] => .ok []
  | row :: rest =>
      match row.attribute? with
      | .error fault => .error fault
      | .ok found =>
          match attributes rest with
          | .error fault => .error fault
          | .ok others => .ok (found.toList ++ others)

/-- The number of tuples in the first of some rows. -/
def tupleCount (first : CatalogRow) : Except CatalogFault Nat :=
  match first.tuples.count with
  | .error fault => .error fault
  | .ok count => (tupleCountOf count).mapError .statistic

/-- The relation that the rows of one name describe. -/
def relationOf (first : CatalogRow) (rest : List CatalogRow) : Except CatalogFault Relation :=
  match first.tupleCount with
  | .error fault => .error fault
  | .ok tupleCount =>
      match attributes (first :: rest) with
      | .error fault => .error fault
      | .ok found => .ok ⟨tupleCount, found⟩

def about (relation : Cell) (rows : List CatalogRow) : List CatalogRow :=
  rows.filter fun row => row.relation.key == relation.key

def aboutOthers (relation : Cell) (rows : List CatalogRow) : List CatalogRow :=
  rows.filter fun row => row.relation.key != relation.key

theorem length_aboutOthers_le (relation : Cell) (rows : List CatalogRow) :
    (aboutOthers relation rows).length ≤ rows.length :=
  List.length_filter_le _ rows

/-- The relations that rows describe, in the order of their first rows. -/
def relations (rows : List CatalogRow) : Except CatalogFault (List (String × Relation)) :=
  match rows with
  | [] => .ok []
  | first :: rest =>
      match relationOf first (about first.relation rest) with
      | .error fault => .error fault
      | .ok relation =>
          match relations (aboutOthers first.relation rest) with
          | .error fault => .error fault
          | .ok others => .ok ((first.relation.label.display, relation) :: others)
termination_by rows.length
decreasing_by
  exact Nat.lt_succ_of_le (length_aboutOthers_le first.relation rest)

end CatalogRow

namespace Catalog

/-- The catalogue of the rows that name a relation. A list or an object is no such name. -/
def ofRows (rows : List CatalogRow) : Except CatalogFault (Catalog Relation) :=
  if rows.any fun row => row.relation.isCompound then .error .wrongKind
  else (CatalogRow.relations (rows.filter fun row => !row.relation.isMissing)).map ofList

def ofFrame (columns : CatalogColumns) (frame : Frame) :
    Except CatalogFault (Catalog Relation) :=
  match CatalogRow.ofFrame columns frame with
  | .error fault => .error fault
  | .ok rows => ofRows rows

def exportRow (name : String) (relation : Relation) (column values : Cell) :
    List (String × Cell) :=
  [("relation", .text name), ("tuple_count", .integer relation.tupleCount),
    ("attribute", column), ("value_count", values)]

def relationRows (name : String) (relation : Relation) : List (List (String × Cell)) :=
  if relation.attributes.isEmpty then [exportRow name relation .null .null]
  else
    relation.attributes.map fun column =>
      exportRow name relation (.ofValue column.name.value) (.integer column.valueCount)

def rows (catalog : Catalog Relation) : List (List (String × Cell)) :=
  catalog.entries.flatMap fun (name, relation) => relationRows name relation

def frame (catalog : Catalog Relation) : Frame :=
  (Frame.ofRows? catalog.rows).getD .empty

end Catalog

end Selectivity
