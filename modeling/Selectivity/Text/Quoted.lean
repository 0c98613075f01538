import Selectivity.Text.Printable

/-!
# Quoted literals

A text is quoted by single quotes, or by double quotes if it holds a single quote and no double
one. The quote and the backslash are written behind a backslash, and so are line feeds, carriage
returns and tabs, by their letters. Other characters that are not printable are written by their
code point in two, four or eight hexadecimal digits.
-/

namespace Selectivity.Text

/-- The hexadecimal digit, in lower case, of a value below sixteen. -/
def hexDigit (value : Nat) : Char :=
  if value < 10 then Char.ofNat ('0'.toNat + value)
  else Char.ofNat ('a'.toNat + (value - 10))

/-- The lowest `width` hexadecimal digits of a number. -/
def hexDigits : (width : Nat) → (number : Nat) → List Char
  | 0, _ => []
  | width + 1, number => hexDigits width (number / 16) ++ [hexDigit (number % 16)]

/-- A code point by its hexadecimal digits, with the letter that tells their number. -/
def codePointEscape (point : Nat) : List Char :=
  if point ≤ 0xFF then ['\\', 'x'] ++ hexDigits 2 point
  else if point ≤ 0xFFFF then ['\\', 'u'] ++ hexDigits 4 point
  else ['\\', 'U'] ++ hexDigits 8 point

def quoteFor (text : List Char) : Char :=
  if text.contains '\'' && !text.contains '"' then '"' else '\''

def quotedChar (quote character : Char) : List Char :=
  if character == quote || character == '\\' then ['\\', character]
  else if character == '\n' then ['\\', 'n']
  else if character == '\r' then ['\\', 'r']
  else if character == '\t' then ['\\', 't']
  else if isPrintable character then [character]
  else codePointEscape character.toNat

def quoted (text : List Char) : List Char :=
  let quote := quoteFor text
  quote :: text.flatMap (quotedChar quote) ++ [quote]

def quotedText (text : String) : String :=
  String.ofList (quoted text.toList)

end Selectivity.Text
