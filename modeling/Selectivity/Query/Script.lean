import Selectivity.Query.Clause
import Selectivity.Query.Fault
import Selectivity.Text.Lines

/-!
# Scripts

A script is what the lines of a query say, before any relation is looked up: the SELECT clause,
the FROM clause, the lines between them and the end, and how the reading ended. The first fault
ends the reading of the body, and what was read before it is kept, because a relation that is
missing in the catalogue may be found out earlier.
-/

namespace Selectivity.Query

open Text

/-- A name in a FROM clause. -/
inductive Source where
  | fresh (name : String)
  | repeated (name : String)
  deriving DecidableEq, Repr

def Source.name : Source → String
  | .fresh name => name
  | .repeated name => name

/-- What could have stood in the place of a line that is skipped. -/
inductive Expectation where
  | join
  | joinOrWhere
  deriving DecidableEq, Repr

/-- The text that names what was expected. -/
def Expectation.render : Expectation → String
  | .join => "JOIN"
  | .joinOrWhere => "JOIN or WHERE"

/-- A line behind the FROM clause. -/
inductive BodyLine where
  | join (relation : String) (conditions : List Comparison)
  | skipped (line : String) (expected : Expectation)
  deriving DecidableEq, Repr

/-- What the lines of a query say. -/
structure Script where
  projection : Option (List String)
  sources : List Source
  /-- The lines behind it, up to the WHERE clause or the first fault. -/
  body : List BodyLine
  /-- The conditions of the WHERE clause, or the first fault in the body. -/
  ending : Except QueryFault (List Predicate)

/-- Reads the SELECT clause. A lone asterisk keeps all attributes. -/
def readProjection (line : List Char) : Except QueryFault (Option (List String)) :=
  match afterKeyword? "SELECT" line with
  | none => .error (.selectExpected (String.ofList line))
  | some rest =>
      if trim rest = ['*'] then .ok none
      else
        match words? rest with
        | some names => .ok (some names)
        | none => .error (.attributeName (String.ofList line))

/-- Notes that a name is mentioned: tells whether it is new, and returns all names. -/
def register (mentioned : List String) (name : String) : Bool × List String :=
  if mentioned.contains name then (false, mentioned) else (true, name :: mentioned)

/-- Tells the names that stand for the first time from the repeated ones. -/
def markRepeated (mentioned : List String) : List String → List Source
  | [] => []
  | name :: rest =>
      match register mentioned name with
      | (true, noted) => .fresh name :: markRepeated noted rest
      | (false, noted) => .repeated name :: markRepeated noted rest

def readSources (line : List Char) : Except QueryFault (List Source) :=
  match afterKeyword? "FROM" line with
  | none => .error (.fromExpected (String.ofList line))
  | some rest =>
      match words? rest with
      | some names => .ok (markRepeated [] names)
      | none => .error (.relationName (String.ofList line))

/-- Reads the conditions of a JOIN clause, up to the first that compares no attributes. -/
def readComparisons : List (List Char) → Except QueryFault (List Comparison)
  | [] => .ok []
  | item :: rest =>
      match comparison? item with
      | none => .error (.joinPredicate (String.ofList item))
      | some comparison =>
          match readComparisons rest with
          | .ok comparisons => .ok (comparison :: comparisons)
          | .error fault => .error fault

/-- Reads a JOIN clause. A relation that is already mentioned is found out before the conditions
are looked at. -/
def readJoin (mentioned : List String) (line : List Char) :
    Except QueryFault (String × List Comparison) :=
  match joinParts? line with
  | none => .error (.joinExpected (String.ofList line))
  | some (word, conditions) =>
      let relation := String.ofList word
      if mentioned.contains relation then .error (.repeatedRelation relation)
      else
        match readComparisons (items conditions) with
        | .ok comparisons => .ok (relation, comparisons)
        | .error fault => .error fault

/-- Reads the conditions of a WHERE clause, up to the first item that is none. -/
def readConditions : List (List Char) → Except QueryFault (List Predicate)
  | [] => .ok []
  | item :: rest =>
      match condition? item with
      | none => .error (.wherePredicate (String.ofList item))
      | some condition =>
          match readConditions rest with
          | .ok conditions => .ok (condition :: conditions)
          | .error fault => .error fault

def readSelections (line : List Char) : Except QueryFault (List Predicate) :=
  match afterKeyword? "WHERE" line with
  | none => .error (.whereExpected (String.ofList line))
  | some rest => readConditions (items rest)

/-- Reads the lines behind the FROM clause. Only the last line can be a WHERE clause; a line that
does not start like a clause is skipped. -/
def readBody (mentioned : List String) :
    List (List Char) → List BodyLine × Except QueryFault (List Predicate)
  | [] => ([], .ok [])
  | [last] =>
      if startsWith "WHERE" last then ([], readSelections last)
      else if startsWith "JOIN" last then
        match readJoin mentioned last with
        | .ok (relation, conditions) => ([.join relation conditions], .ok [])
        | .error fault => ([], .error fault)
      else ([.skipped (String.ofList last) .joinOrWhere], .ok [])
  | line :: next :: rest =>
      if startsWith "JOIN" line then
        match readJoin mentioned line with
        | .ok (relation, conditions) =>
            let (body, ending) := readBody (relation :: mentioned) (next :: rest)
            (.join relation conditions :: body, ending)
        | .error fault => ([], .error fault)
      else
        let (body, ending) := readBody mentioned (next :: rest)
        (.skipped (String.ofList line) .join :: body, ending)

namespace Script

/-- Reads the lines of a query, of which none is blank. -/
def ofLines : List (List Char) → Except QueryFault Script
  | selectLine :: fromLine :: rest =>
      match readProjection selectLine with
      | .error fault => .error fault
      | .ok projection =>
          match readSources fromLine with
          | .error fault => .error fault
          | .ok sources =>
              let (body, ending) := readBody (sources.map Source.name) rest
              .ok ⟨projection, sources, body, ending⟩
  | _ => .error .tooFewLines

def ofText (text : List Char) : Except QueryFault Script :=
  ofLines (lines text)

end Script

end Selectivity.Query
