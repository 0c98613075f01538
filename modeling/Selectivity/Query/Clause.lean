import Selectivity.Predicate
import Selectivity.Text.Items
import Selectivity.Text.Word

/-!
# Clauses and conditions

How a single line of a query and a single condition are recognised. A keyword stands at the start
of its line, in upper case. The relation of a JOIN clause is the longest word behind the keyword
that leaves an ON behind it, with or without blanks between the two.
-/

namespace Selectivity.Query

open Text

/-- Does the line start with the keyword? -/
def startsWith (keyword : String) (line : List Char) : Bool :=
  keyword.toList.isPrefixOf line

/-- What follows a keyword and the blanks behind it, of which there is at least one. -/
def afterKeyword? (keyword : String) (line : List Char) : Option (List Char) :=
  match keyword.toList.isPrefixOf? line with
  | some (character :: rest) =>
      if isBlank character then some (trimStart rest) else none
  | _ => none

/-- What follows an ON, with the blanks before and behind it removed. -/
def afterOn? (text : List Char) : Option (List Char) :=
  match trimStart text with
  | 'O' :: 'N' :: rest => some (trimStart rest)
  | _ => none

/-- The longest word at the start of a text that has an ON behind it, and what follows the ON. -/
def wordBeforeOn? : List Char → Option (List Char × List Char)
  | [] => none
  | character :: rest =>
      if isWordChar character then
        match wordBeforeOn? rest with
        | some (word, after) => some (character :: word, after)
        | none => (afterOn? rest).map fun after => ([character], after)
      else none

/-- The relation of a JOIN clause and the text of its conditions. -/
def joinParts? (line : List Char) : Option (List Char × List Char) :=
  (afterKeyword? "JOIN" line).bind wordBeforeOn?

/-- Two words with an equals sign between them. -/
def comparison? (text : List Char) : Option Comparison :=
  match text.span isWordChar with
  | (left, '=' :: right) =>
      if isWord left && isWord right then
        some ⟨String.ofList left, String.ofList right⟩
      else none
  | _ => none

/-- A word, an equals sign, and a word between double quotes. -/
def valueCondition? (text : List Char) : Option Predicate :=
  match text.span isWordChar with
  | (column, '=' :: '"' :: rest) =>
      match rest.span isWordChar with
      | (value, ['"']) =>
          if isWord column && isWord value then
            some (.equalsValue (String.ofList column) (String.ofList value))
          else none
      | _ => none
  | _ => none

def condition? (text : List Char) : Option Predicate :=
  (valueCondition? text).or ((comparison? text).map .equalsAttribute)

/-- The items of a list, if all of them are words. -/
def words? (text : List Char) : Option (List String) :=
  if (items text).all isWord then some ((items text).map String.ofList) else none

end Selectivity.Query
