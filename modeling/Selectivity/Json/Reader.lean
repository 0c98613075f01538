import Selectivity.Json.Real
import Selectivity.Json.Value
import Selectivity.Text.Numeral

/-!
# Reading JSON

A text is read as one JSON value with blanks around it. The numbers that are no numbers are
accepted by their names. If an object repeats a name, the last value counts and stands at the
first place. Every reader returns what follows the part that it has read. A text is refused at the
first place that is not JSON, or at a whole number in front of it that has too many digits. How many
digits are too many is a parameter, so that there can also be no limit.
-/

namespace Selectivity.Json

/-- Why a text is refused. -/
inductive ReadFault where
  | malformed
  | tooManyDigits
  deriving DecidableEq, Repr

/-- A part that was read and what follows it, or why there is none. -/
abbrev Reading (α : Type) := Except ReadFault (α × List Char)

/-- The reading of a part that has only one way to fail. -/
def Reading.ofOption {α : Type} (found : Option (α × List Char)) : Reading α :=
  match found with
  | some reading => .ok reading
  | none => .error .malformed

/-- The reading with its part replaced by an image of it. -/
def Reading.map {α β : Type} (image : α → β) (reading : Reading α) : Reading β :=
  match reading with
  | .ok (value, rest) => .ok (image value, rest)
  | .error fault => .error fault

/-- The text without the blanks that may stand between the parts of a value. -/
def skipBlanks (text : List Char) : List Char :=
  text.dropWhile fun character =>
    character == ' ' || character == '\t' || character == '\n' || character == '\r'

/-- The value of a hexadecimal digit of either case. -/
def hexValue? (character : Char) : Option Nat :=
  if '0' ≤ character ∧ character ≤ '9' then some (character.toNat - '0'.toNat)
  else if 'a' ≤ character ∧ character ≤ 'f' then some (character.toNat - 'a'.toNat + 10)
  else if 'A' ≤ character ∧ character ≤ 'F' then some (character.toNat - 'A'.toNat + 10)
  else none

/-- The 16-bit unit that four hexadecimal digits stand for. -/
def unitValue? (first second third fourth : Char) : Option Nat :=
  match hexValue? first, hexValue? second, hexValue? third, hexValue? fourth with
  | some one, some two, some three, some four =>
      some (((one * 16 + two) * 16 + three) * 16 + four)
  | _, _, _, _ => none

/-- The character that a letter behind a backslash stands for. -/
def escapedChar? : Char → Option Char
  | '"' => some '"'
  | '\\' => some '\\'
  | '/' => some '/'
  | 'b' => some '\x08'
  | 'f' => some '\x0c'
  | 'n' => some '\n'
  | 'r' => some '\r'
  | 't' => some '\t'
  | _ => none

/-- A piece of a written text: a character, or a 16-bit unit that was escaped. -/
inductive Piece where
  /-- A character that stands for itself or is escaped by a letter. -/
  | plain (character : Char)
  /-- A unit that was written by its number. -/
  | unit (value : Nat)
  deriving DecidableEq, Repr

/-- The pieces of a text up to its closing quote. Control characters have to be escaped. -/
def readPieces? : List Char → Option (List Piece × List Char)
  | '"' :: rest => some ([], rest)
  | '\\' :: 'u' :: first :: second :: third :: fourth :: rest =>
      match unitValue? first second third fourth, readPieces? rest with
      | some unit, some (pieces, after) => some (.unit unit :: pieces, after)
      | _, _ => none
  | '\\' :: letter :: rest =>
      match escapedChar? letter, readPieces? rest with
      | some character, some (pieces, after) => some (.plain character :: pieces, after)
      | _, _ => none
  | character :: rest =>
      if character.toNat < 0x20 then none
      else
        match readPieces? rest with
        | some (pieces, after) => some (.plain character :: pieces, after)
        | none => none
  | [] => none

/-- The first unit of a surrogate pair. -/
def isHighSurrogate (unit : Nat) : Bool :=
  0xD800 ≤ unit && unit ≤ 0xDBFF

/-- The second unit of a surrogate pair. -/
def isLowSurrogate (unit : Nat) : Bool :=
  0xDC00 ≤ unit && unit ≤ 0xDFFF

/-- The character of a unit that stands alone. Half of a surrogate pair is no character here. The
replacement character takes its place, so a text that escapes such a half alone loses it. -/
def loneUnit (unit : Nat) : Char :=
  if isHighSurrogate unit || isLowSurrogate unit then '\uFFFD' else Char.ofNat unit

/-- The text of a row of pieces: two escaped units that form a surrogate pair are one
character. -/
def joinPieces : List Piece → List Char
  | [] => []
  | .plain character :: rest => character :: joinPieces rest
  | .unit high :: .unit low :: rest =>
      if isHighSurrogate high && isLowSurrogate low then
        Char.ofNat (0x10000 + (high - 0xD800) * 0x400 + (low - 0xDC00)) :: joinPieces rest
      else
        loneUnit high :: joinPieces (.unit low :: rest)
  | .unit unit :: rest => loneUnit unit :: joinPieces rest

/-- Reads a text after its opening quote. -/
def readText? (text : List Char) : Option (String × List Char) :=
  (readPieces? text).map fun (pieces, rest) => (String.ofList (joinPieces pieces), rest)

/-- The digits at the start of a text, and what follows them. -/
def spanDigits (text : List Char) : List Char × List Char :=
  text.span Text.isDigit

/-- The digits of a whole number: a single zero, or a row that does not start with one. -/
def readWhole? : List Char → Option (List Char × List Char)
  | '0' :: rest => some (['0'], rest)
  | text =>
      match spanDigits text with
      | ([], _) => none
      | found => some found

/-- The point and the digits of a fraction, if there are any. -/
def readFraction : List Char → List Char × List Char
  | '.' :: rest =>
      match spanDigits rest with
      | ([], _) => ([], '.' :: rest)
      | (fraction, after) => ('.' :: fraction, after)
  | text => ([], text)

/-- The sign of an exponent, if there is one. -/
def readExponentSign : List Char → List Char × List Char
  | '+' :: rest => (['+'], rest)
  | '-' :: rest => (['-'], rest)
  | text => ([], text)

/-- The letter, the sign and the digits of an exponent, if there is one. -/
def readExponent : List Char → List Char × List Char
  | [] => ([], [])
  | letter :: rest =>
      if letter == 'e' || letter == 'E' then
        match readExponentSign rest with
        | (sign, unsigned) =>
            match spanDigits unsigned with
            | ([], _) => ([], letter :: rest)
            | (exponent, after) => (letter :: sign ++ exponent, after)
      else ([], letter :: rest)

/-- The whole number of a row of digits, unless these are too many. -/
def wholeNumber (limit : Option Nat) (negative : Bool) (digits : List Char) :
    Except ReadFault Json :=
  if Text.exceeds limit digits then .error .tooManyDigits
  else .ok (.integer (Text.signed negative (Text.digitsValue digits)))

/-- Reads a number that starts with its digits, after the sign that is given. Nothing results
without a digit. -/
def readUnsigned? (limit : Option Nat) (negative : Bool) (text : List Char) :
    Option (Reading Json) :=
  match readWhole? text with
  | none => none
  | some (whole, afterWhole) =>
      match readFraction afterWhole with
      | (fraction, afterFraction) =>
          match readExponent afterFraction with
          | (exponent, rest) =>
              if fraction.isEmpty && exponent.isEmpty then
                some ((wholeNumber limit negative whole).map fun number => (number, rest))
              else
                let sign := if negative then ['-'] else []
                some (.ok (.real (realForm (sign ++ whole ++ fraction ++ exponent)), rest))

/-- What follows a fixed word, if the text starts with it. -/
def afterWord? : (word : List Char) → (text : List Char) → Option (List Char)
  | [], text => some text
  | letter :: word, character :: rest =>
      if letter = character then afterWord? word rest else none
  | _ :: _, [] => none

/-- The values that are written as words. -/
def words : List (List Char × Json) :=
  [("null".toList, .null), ("true".toList, .boolean true), ("false".toList, .boolean false),
   ("NaN".toList, .real "NaN"), ("Infinity".toList, .real "Infinity"),
   ("-Infinity".toList, .real "-Infinity")]

/-- Reads a value that is written as a word. -/
def readWord (text : List Char) : Reading Json :=
  .ofOption (words.findSome? fun (word, value) =>
    (afterWord? word text).map fun rest => (value, rest))

/-- Reads a value that has no parts. -/
def readScalar (limit : Option Nat) : List Char → Reading Json
  | '"' :: rest => (Reading.ofOption (readText? rest)).map .string
  | '-' :: rest => (readUnsigned? limit true rest).getD (readWord ('-' :: rest))
  | text => (readUnsigned? limit false text).getD (readWord text)

mutual

/-- Reads a value. Every call spends one unit of `fuel`. Of two nested calls at least one has read
a character, so twice as many units as there are characters suffice. -/
def readValue (limit : Option Nat) : (fuel : Nat) → List Char → Reading Json
  | 0, _ => .error .malformed
  | fuel + 1, '[' :: rest =>
      match skipBlanks rest with
      | ']' :: after => .ok (.array [], after)
      | items => (readItems limit fuel items).map .array
  | fuel + 1, '\x7b' :: rest =>
      match skipBlanks rest with
      | '\x7d' :: after => .ok (.object [], after)
      | members => (readMembers limit fuel members).map fun found => .object (Entries.ofList found)
  | _ + 1, text => readScalar limit text

/-- Reads the items of an array that is not empty, and its closing bracket. -/
def readItems (limit : Option Nat) : (fuel : Nat) → List Char → Reading (List Json)
  | 0, _ => .error .malformed
  | fuel + 1, text =>
      match readValue limit fuel text with
      | .error fault => .error fault
      | .ok (item, rest) =>
          match skipBlanks rest with
          | ']' :: after => .ok ([item], after)
          | ',' :: more => (readItems limit fuel (skipBlanks more)).map (item :: ·)
          | _ => .error .malformed

/-- Reads the members of an object that is not empty, and its closing brace. -/
def readMembers (limit : Option Nat) : (fuel : Nat) → List Char → Reading (List (String × Json))
  | fuel + 1, '"' :: text =>
      match readText? text with
      | none => .error .malformed
      | some (name, rest) =>
          match skipBlanks rest with
          | ':' :: afterColon =>
              match readValue limit fuel (skipBlanks afterColon) with
              | .error fault => .error fault
              | .ok (value, afterValue) =>
                  match skipBlanks afterValue with
                  | '\x7d' :: after => .ok ([(name, value)], after)
                  | ',' :: more =>
                      (readMembers limit fuel (skipBlanks more)).map ((name, value) :: ·)
                  | _ => .error .malformed
          | _ => .error .malformed
  | _, _ => .error .malformed

end

/-- Reads a text that is one JSON value and nothing else, with a limit for the digits of a whole
number. -/
def readWithin (limit : Option Nat) (text : List Char) : Except ReadFault Json :=
  match readValue limit (2 * text.length + 2) (skipBlanks text) with
  | .ok (value, rest) => if (skipBlanks rest).isEmpty then .ok value else .error .malformed
  | .error fault => .error fault

/-- Reads a text that is one JSON value and nothing else. -/
def read (text : List Char) : Except ReadFault Json :=
  readWithin (some Text.digitLimit) text

end Selectivity.Json
