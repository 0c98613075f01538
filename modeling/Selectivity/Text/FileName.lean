import Selectivity.Text.Lines

/-!
# File names

The suffix of a file tells its format. It starts at the last point of the last part of the path,
unless that point is the first or the last character of the part.
-/

namespace Selectivity.Text

/-- The parts of a path; empty parts and parts that mean the same folder do not count. -/
def pathParts (path : List Char) : List (List Char) :=
  (splitAt '/' path).filter fun part => !part.isEmpty && part != ['.']

def joinParts (parts : List (List Char)) : List Char :=
  List.intercalate ['/'] parts

/-- The path without the parts that do not count. -/
def normalPath (path : List Char) : List Char :=
  (if path.head? = some '/' then ['/'] else []) ++ joinParts (pathParts path)

def fileName (path : List Char) : List Char :=
  ((pathParts path).getLast?).getD []

/-- The suffix of a path with its point, or nothing. -/
def suffix (path : List Char) : List Char :=
  let reversed := (fileName path).reverse
  match reversed.span (· != '.') with
  | (extension, '.' :: stem) =>
      if extension.isEmpty || stem.isEmpty then [] else '.' :: extension.reverse
  | _ => []

end Selectivity.Text
