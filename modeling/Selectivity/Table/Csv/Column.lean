import Selectivity.Entries
import Selectivity.Number.Word
import Selectivity.Table.Cell
import Selectivity.Table.Csv.Record

/-!
# Columns of comma-separated text

The fields of a column that is not text have one type, which is found by trying them from the top.
Whole numbers of 64 bits come first, with a sign; where one of them is too large, all are tried
again without signs. Other numbers are 64-bit numbers, and then come truth values. What is none of
these stays text.

The columns get distinct names. A name that was there before gets a number, where the columns
that are named come before those that are not.
-/

namespace Selectivity.Csv

/-- The fields that stand for a missing entry. -/
def missingWords : List String :=
  ["", "#N/A", "#N/A N/A", "#NA", "-1.#IND", "-1.#QNAN", "-NaN", "-nan", "1.#IND",
   "1.#QNAN", "<NA>", "N/A", "NA", "NULL", "NaN", "None", "n/a", "nan", "null"]

/-- The text of a field, unless it stands for a missing entry. -/
def fieldText (field : Field) : Option String :=
  let text := String.ofList field
  if missingWords.contains text then none else some text

/-- The field at a place, which misses in a short record. -/
def fieldAt (record : Record) (index : Nat) : Option String :=
  (record[index]?).bind fieldText

/-- Why a field is no whole number of 64 bits. -/
inductive WordFault where
  | notWhole
  | tooLarge
  deriving DecidableEq, Repr

/-- A whole number behind blanks: its sign, its digits and what follows them. -/
def splitInteger (text : List Char) : Bool × List Char × List Char :=
  let (negative, unsigned) := Text.splitSign (text.dropWhile Decimal.isAsciiBlank)
  (negative, unsigned.span Text.isDigit)

/-- The whole number of a field, if it is between two bounds. -/
def wordBetween (lowest highest : Int) (text : List Char) : Except WordFault Int :=
  match splitInteger text with
  | (_, [], _) => .error .notWhole
  | (negative, digits, rest) =>
      let value := Text.signed negative (Text.digitsValue digits)
      if !rest.all Decimal.isAsciiBlank then .error .notWhole
      else if value < lowest ∨ highest < value then .error .tooLarge
      else .ok value

/-- The smallest number of 64 bits with a sign. -/
def leastSigned : Int :=
  -WordKind.signedLimit

/-- The largest number of 64 bits with a sign. -/
def mostSigned : Int :=
  WordKind.signedLimit - 1

/-- The largest number of 64 bits without a sign. -/
def mostUnsigned : Int :=
  WordKind.unsignedLimit - 1

/-- The number of 64 bits with a sign in a field, if it does not miss. -/
def signedWord : Option String → Except WordFault (Option Int)
  | some text => (wordBetween leastSigned mostSigned text.toList).map some
  | none => .ok none

/-- The number of 64 bits without a sign in a field. A field with a minus sign counts as one that
misses. -/
def unsignedWord : Option String → Except WordFault (Option Int)
  | some text =>
      if (text.toList.dropWhile Decimal.isAsciiBlank).head? = some '-' then .ok none
      else (wordBetween 0 mostUnsigned text.toList).map some
  | none => .ok none

def textColumn (fields : List (Option String)) : List Cell :=
  fields.map fun field =>
    match field with
    | some text => .text text
    | none => .missing

def realColumn? (fields : List (Option String)) : Option (List Cell) :=
  fields.mapM fun field =>
    match field with
    | some text => (Decimal.value? text.toList).map .real
    | none => some .missing

/-- The words for the two truth values, in small letters. -/
def flagWords : List (List Char × Bool) :=
  [("true".toList, true), ("false".toList, false)]

def flagColumn? (fields : List (Option String)) : Option (List Cell) :=
  fields.mapM fun field =>
    match field with
    | some text => (flagWords.lookup (text.toList.map Char.toLower)).map .flag
    | none => some .missing

/-- A column of fields that are not all whole numbers. -/
def looseColumn (fields : List (Option String)) : List Cell :=
  ((realColumn? fields).or (flagColumn? fields)).getD (textColumn fields)

/-- A whole number in a column in which others miss. -/
def gappedCell : Option Int → Cell
  | some value => .real (Binary64.ofInt value)
  | none => .missing

/-- A column of whole numbers; if some miss, all become 64-bit numbers. -/
def signedColumn (numbers : List (Option Int)) : List Cell :=
  match numbers.mapM id with
  | some values => values.map .integer
  | none => numbers.map gappedCell

/-- A column that has a whole number of more than 64 bits with a sign. -/
def unsignedColumn (fields : List (Option String)) : List Cell :=
  match fields.mapM unsignedWord with
  | .error .notWhole => looseColumn fields
  | .error .tooLarge => textColumn fields
  | .ok numbers =>
      match numbers.mapM id with
      | some values => values.map .integer
      | none => textColumn fields

/-- A column with one type for its fields. -/
def typedColumn (fields : List (Option String)) : List Cell :=
  match fields.mapM signedWord with
  | .error .notWhole => looseColumn fields
  | .error .tooLarge => unsignedColumn fields
  | .ok numbers => signedColumn numbers

/-- The name of a column; a column without a name is named by its place. -/
def columnName (index : Nat) (field : Field) : String :=
  if field.isEmpty then s!"Unnamed: {index}" else String.ofList field

/-- The order in which columns get their names: those that are named come first. -/
def namingOrder (header : Record) : List Nat :=
  let places := List.range header.length
  let isNamed := fun index => ((header[index]?).getD []) != []
  places.filter isNamed ++ places.filter fun index => !isNamed index

/-- The names of columns while they are made distinct. -/
structure Naming where
  names : List String
  numbers : List (String × Nat)

def numberedName (name : String) (number : Nat) : String :=
  name ++ "." ++ String.ofList (Text.digits number)

/-- The first number, from a given one on, with which a name is not taken. -/
def freeNumber (taken : List String) (name : String) : (tries number : Nat) → Nat
  | 0, number => number
  | tries + 1, number =>
      if taken.contains (numberedName name number) then
        freeNumber taken name tries (number + 1)
      else number

def Naming.settle (naming : Naming) (index : Nat) : Naming :=
  let name := (naming.names[index]?).getD ""
  match Entries.get? naming.numbers name with
  | none => { naming with numbers := Entries.put naming.numbers name 1 }
  | some next =>
      let number := freeNumber naming.names name naming.names.length next
      let chosen := numberedName name number
      ⟨naming.names.set index chosen,
        Entries.put (Entries.put naming.numbers name (number + 1)) chosen 1⟩

/-- The distinct names of the columns in a first record. -/
def columnNames (header : Record) : List String :=
  ((namingOrder header).foldl Naming.settle ⟨header.mapIdx columnName, []⟩).names

end Selectivity.Csv
