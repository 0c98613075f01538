import Selectivity.Text.Lines

/-!
# Where a query comes from

A query is a text of its own or is read from a stream. A stream knows more line ends.
-/

namespace Selectivity.Query

/-- The text of a query, with the way in which it comes. -/
inductive Input where
  /-- A text of its own, in which only line feeds end a line. -/
  | text (content : String)
  /-- The content of a stream, in which carriage returns end a line as well. -/
  | stream (content : String)
  deriving DecidableEq, Repr

/-- The characters of a query, with line feeds as the only line ends. -/
def Input.characters : Input → List Char
  | .text content => content.toList
  | .stream content => Text.unifyLineEnds content.toList

end Selectivity.Query
