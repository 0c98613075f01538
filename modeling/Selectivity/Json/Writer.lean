import Selectivity.Json.Value
import Selectivity.Text.Numeral
import Selectivity.Text.Quoted

/-!
# JSON text

How a JSON value is written: on one line, or over several lines with a fixed indentation for each
level. Characters beyond ASCII are written as escapes of their 16-bit units, or as they are.
-/

namespace Selectivity.Json

/-- The choices in writing a value. -/
structure Layout where
  /-- The number of blanks for each level, or one line for all. -/
  indent : Option Nat
  /-- Are characters beyond printable ASCII escaped? -/
  asciiOnly : Bool
  deriving DecidableEq, Repr

/-- One line, in ASCII. -/
def Layout.compact : Layout :=
  ⟨none, true⟩

def unitEscape (unit : Nat) : List Char :=
  ['\\', 'u'] ++ Text.hexDigits 4 unit

/-- The escape of a character: its 16-bit unit, or the two units of a surrogate pair. -/
def charEscape (character : Char) : List Char :=
  let point := character.toNat
  if point < 0x10000 then unitEscape point
  else
    unitEscape (0xD800 + (point - 0x10000) / 0x400) ++
      unitEscape (0xDC00 + (point - 0x10000) % 0x400)

def writtenChar (asciiOnly : Bool) (character : Char) : List Char :=
  if character == '"' then ['\\', '"']
  else if character == '\\' then ['\\', '\\']
  else if character == '\n' then ['\\', 'n']
  else if character == '\r' then ['\\', 'r']
  else if character == '\t' then ['\\', 't']
  else if character == '\x08' then ['\\', 'b']
  else if character == '\x0c' then ['\\', 'f']
  else if character.toNat < 0x20 then charEscape character
  else if asciiOnly && 0x7F ≤ character.toNat then charEscape character
  else [character]

def writtenText (asciiOnly : Bool) (text : String) : String :=
  String.ofList ('"' :: text.toList.flatMap (writtenChar asciiOnly) ++ ['"'])

namespace Layout

/-- What stands before an item at the given level, and before the bracket that ends its list. -/
def lineBreak (layout : Layout) (level : Nat) : String :=
  match layout.indent with
  | none => ""
  | some width => String.ofList ('\n' :: List.replicate (width * level) ' ')

/-- What stands between two items at the given level. -/
def separator (layout : Layout) (level : Nat) : String :=
  match layout.indent with
  | none => ", "
  | some _ => "," ++ layout.lineBreak level

/-- The written items of a list, between its brackets. -/
def bracketed (layout : Layout) (level : Nat) (opening closing : String)
    (items : List String) : String :=
  if items.isEmpty then opening ++ closing
  else
    opening ++ layout.lineBreak (level + 1) ++
      String.intercalate (layout.separator (level + 1)) items ++ layout.lineBreak level ++ closing

end Layout

mutual

/-- The text of a value that stands at the given level. -/
def renderAt (layout : Layout) (level : Nat) : Json → String
  | .null => "null"
  | .boolean true => "true"
  | .boolean false => "false"
  | .integer value => String.ofList (Text.numeral value)
  | .real standard => standard
  | .string value => writtenText layout.asciiOnly value
  | .array items => layout.bracketed level "[" "]" (renderItems layout (level + 1) items)
  | .object members =>
      layout.bracketed level "\x7b" "\x7d" (renderMembers layout (level + 1) members)

/-- The texts of the items of an array. -/
def renderItems (layout : Layout) (level : Nat) : List Json → List String
  | [] => []
  | item :: rest => renderAt layout level item :: renderItems layout level rest

/-- The texts of the members of an object. -/
def renderMembers (layout : Layout) (level : Nat) : List (String × Json) → List String
  | [] => []
  | (name, value) :: rest =>
      (writtenText layout.asciiOnly name ++ ": " ++ renderAt layout level value) ::
        renderMembers layout level rest

end

def render (layout : Layout) (value : Json) : String :=
  renderAt layout 0 value

end Selectivity.Json
