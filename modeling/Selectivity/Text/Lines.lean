import Selectivity.Text.Blank

/-!
# Lines

A text is cut into lines at its line feeds. A stream of text knows two more line ends, the
carriage return and the carriage return with a line feed, and turns both into a line feed first.
-/

namespace Selectivity.Text

/-- Writes every line end of a stream as one line feed. -/
def unifyLineEnds : List Char → List Char
  | [] => []
  | '\r' :: '\n' :: rest => '\n' :: unifyLineEnds rest
  | '\r' :: rest => '\n' :: unifyLineEnds rest
  | character :: rest => character :: unifyLineEnds rest

/-- The pieces between the occurrences of a separator: one more than there are separators. -/
def splitAt (separator : Char) : List Char → List (List Char)
  | [] => [[]]
  | character :: rest =>
      if character = separator then
        [] :: splitAt separator rest
      else
        match splitAt separator rest with
        | piece :: pieces => (character :: piece) :: pieces
        | [] => [[character]]

/-- The text without the carriage returns at its end. -/
def dropReturns (text : List Char) : List Char :=
  (text.reverse.dropWhile (· == '\r')).reverse

/-- The lines of a text that are not blank, without their line ends. -/
def lines (text : List Char) : List (List Char) :=
  ((splitAt '\n' text).filter fun line => !line.all isBlank).map dropReturns

end Selectivity.Text
