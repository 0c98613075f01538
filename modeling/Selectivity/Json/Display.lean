import Selectivity.Json.Writer
import Selectivity.Text.Quoted

/-!
# Values as plain text

How a value is shown in a line of text: a text stands for itself, and the empty value and the
truth values have names. Within a list or an object, texts are quoted.
-/

namespace Selectivity.Json

/-- The form of a number that is not whole: infinite numbers and what is no number have names of
their own. -/
def realText : String → String
  | "NaN" => "nan"
  | "Infinity" => "inf"
  | "-Infinity" => "-inf"
  | standard => standard

mutual

/-- The form of a value inside another one. -/
def literal : Json → String
  | .null => "None"
  | .boolean true => "True"
  | .boolean false => "False"
  | .integer value => String.ofList (Text.numeral value)
  | .real literal => realText literal
  | .string value => Text.quotedText value
  | .array items => "[" ++ String.intercalate ", " (literals items) ++ "]"
  | .object members => "\x7b" ++ String.intercalate ", " (memberLiterals members) ++ "\x7d"

/-- The forms of the items of a list. -/
def literals : List Json → List String
  | [] => []
  | item :: rest => literal item :: literals rest

/-- The forms of the members of an object. -/
def memberLiterals : List (String × Json) → List String
  | [] => []
  | (name, value) :: rest =>
      (Text.quotedText name ++ ": " ++ literal value) :: memberLiterals rest

end

/-- The form of a value in a line of text. -/
def display : Json → String
  | .string value => value
  | value => literal value

/-- The form of several values together: of none it is empty, of one it is its own. -/
def displayTogether : List Json → String
  | [] => ""
  | [value] => value.display
  | values => "(" ++ String.intercalate ", " (literals values) ++ ")"

end Selectivity.Json
