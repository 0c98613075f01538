/-!
# Records of comma-separated text

A record is a line of fields with commas between them. A quote is special only at the start of a
field: the field then goes on to the next single quote, and may hold commas, line ends and
doubled quotes. A line ends with a line feed, a carriage return, or both in this order.

Lines of blanks are skipped, and behind a carriage return that ends such a line one comma is
skipped too. If that comma is followed by blanks and then by anything else, it does count: a record
that is found behind blanks starts where its line does.
-/

namespace Selectivity.Csv

/-- Why a text is no table. -/
inductive Fault where
  | emptyFile
  | openQuote
  | raggedRecord
  deriving DecidableEq, Repr

abbrev Field := List Char

abbrev Record := List Field

/-- A blank that may stand on an empty line. -/
def isLineBlank (character : Char) : Bool :=
  character == ' ' || character == '\t'

/-- Where the search for the next record stands. -/
inductive LinePlace where
  | start
  | afterBlanks
  | afterReturn
  deriving DecidableEq, Repr

/-- The text from the start of the next record on, if there is one; `line` is the text from the
start of the current line on. -/
def recordStart? (line : List Char) (place : LinePlace) : List Char → Option (List Char)
  | [] => none
  | character :: rest =>
      if character = '\n' then recordStart? rest .start rest
      else if character = ',' ∧ place = .afterReturn then recordStart? line .start rest
      else if character = '\r' then recordStart? rest .afterReturn rest
      else if isLineBlank character then recordStart? line .afterBlanks rest
      else if place = .afterBlanks then some line
      else some (character :: rest)

/-- Where the reading of a record stands. -/
inductive FieldPlace where
  | start
  | plain
  | quoted
  | afterQuote
  deriving DecidableEq, Repr

/-- The record of the fields that were read, last one first, and of the characters of its last
field. -/
def closeRecord (characters : List Char) (fields : List Field) : Record :=
  (characters.reverse :: fields).reverse

/-- The text without a line feed at its start. -/
def dropFeed : List Char → List Char
  | '\n' :: rest => rest
  | text => text

/-- Reads a record to the end of its line, and returns what follows. What was read of the current
field and of the record is passed along, last part first. -/
def readRecord (place : FieldPlace) (characters : List Char) (fields : List Field) :
    List Char → Except Fault (Record × List Char)
  | [] =>
      if place = .quoted then .error .openQuote
      else .ok (closeRecord characters fields, [])
  | character :: rest =>
      if place = .quoted then
        if character = '"' then readRecord .afterQuote characters fields rest
        else readRecord .quoted (character :: characters) fields rest
      else if character = '\n' then .ok (closeRecord characters fields, rest)
      else if character = '\r' then .ok (closeRecord characters fields, dropFeed rest)
      else if character = ',' then
        readRecord .start [] (characters.reverse :: fields) rest
      else if character = '"' ∧ place = .start then readRecord .quoted [] fields rest
      else if character = '"' ∧ place = .afterQuote then
        readRecord .quoted ('"' :: characters) fields rest
      else readRecord .plain (character :: characters) fields rest

theorem length_recordStart?_le {line text found : List Char} {place : LinePlace}
    (search : recordStart? line place text = some found) (within : text.length ≤ line.length) :
    found.length ≤ line.length := by
  fun_induction recordStart? line place text
  case case1 => cases search
  case case2 induction | case4 induction =>
    have shorter := induction search (Nat.le_refl _)
    rw [List.length_cons] at within
    omega
  case case3 induction | case5 induction =>
    rw [List.length_cons] at within
    exact induction search (by omega)
  case case6 =>
    cases search
    exact Nat.le_refl _
  case case7 =>
    cases search
    exact within

theorem length_dropFeed_le (text : List Char) : (dropFeed text).length ≤ text.length := by
  unfold dropFeed
  split
  · exact Nat.le_succ _
  · exact Nat.le_refl _

theorem length_of_readRecord {place : FieldPlace} {characters text rest : List Char}
    {fields : List Field} {record : Record}
    (reading : readRecord place characters fields text = .ok (record, rest)) :
    rest.length ≤ text.length - 1 := by
  fun_induction readRecord place characters fields text
  case case1 => cases reading
  case case2 | case5 =>
    cases reading
    exact Nat.le_refl _
  case case6 =>
    cases reading
    exact length_dropFeed_le _
  case case3 induction | case4 induction | case7 induction | case8 induction | case9 induction |
      case10 induction =>
    exact Nat.le_trans (induction reading) (Nat.sub_le _ _)

def records (text : List Char) : Except Fault (List Record) :=
  match _search : recordStart? text .start text with
  | none => .ok []
  | some start =>
      match _reading : readRecord .start [] [] start with
      | .error fault => .error fault
      | .ok (record, rest) => (records rest).map (record :: ·)
termination_by text.length
decreasing_by
  have within := length_recordStart?_le _search (Nat.le_refl _)
  have further := length_of_readRecord _reading
  cases text with
  | nil => cases _search
  | cons character others =>
      rw [List.length_cons] at within ⊢
      omega

end Selectivity.Csv
