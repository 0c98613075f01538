import Selectivity.CommandLine.Usage
import Selectivity.Text.DecimalDigit

/-!
# Settings

How the words of a command line are understood. First every word is sorted: it is an option, a
plain word, or the two dashes behind which all words are plain. An option may be abbreviated, and
its argument may follow it or be attached to it. Then the words are used up from left to right;
the first plain word that no option takes is the query.
-/

namespace Selectivity.CommandLine

/-- A word of the command line, sorted. -/
inductive Word where
  | plain (text : String)
  | dashes
  | option (choice : Choice) (name : String) (attached : Option String)
  /-- A word that looks like an option and is none. -/
  | unknown (text : String)
  deriving DecidableEq, Repr

/-- A row of decimal digits of any script. -/
def isDigitRow (text : List Char) : Bool :=
  text.all fun character => (Text.digitValue? character).isSome

/-- The text without a line feed at its end. -/
def dropFinalFeed (text : List Char) : List Char :=
  match text.reverse with
  | '\n' :: rest => rest.reverse
  | _ => text

/-- A negative number, which is no option. -/
def isNegativeNumber : List Char → Bool
  | '-' :: rest =>
      match (dropFinalFeed rest).span (· != '.') with
      | (whole, []) => !whole.isEmpty && isDigitRow whole
      | (whole, _ :: fraction) =>
          isDigitRow whole && !fraction.isEmpty && isDigitRow fraction
  | _ => false

/-- Cuts a word at its first equals sign. -/
def cutAtEquals (text : List Char) : Option (String × String) :=
  match text.span (· != '=') with
  | (name, '=' :: argument) => some (String.ofList name, String.ofList argument)
  | _ => none

/-- The options that start with an abbreviation. -/
def startingWith (abbreviation : String) (attached : Option String) : List Word :=
  (optionNames.filter fun option => abbreviation.toList.isPrefixOf option.1.toList).map
    fun option => .option option.2 option.1 attached

/-- The options that a word behind two dashes can mean. -/
def longReadings (word : List Char) : List Word :=
  match cutAtEquals word with
  | some (name, argument) => startingWith name (some argument)
  | none => startingWith (String.ofList word) none

/-- The options that a word behind a single dash can mean: its first letter with the rest as
argument, or an abbreviation. -/
def shortReadings (word : List Char) : List Word :=
  optionNames.filterMap fun option =>
    if option.1.toList = word.take 2 then
      some (.option option.2 option.1 (some (String.ofList (word.drop 2))))
    else if word.isPrefixOf option.1.toList then some (.option option.2 option.1 none)
    else none

/-- All options that a word can mean, if it is none as it stands. -/
def readings : List Char → List Word
  | '-' :: '-' :: rest => longReadings ('-' :: '-' :: rest)
  | word => shortReadings word

def Word.name : Word → String
  | .option _ name _ => name
  | .plain text => text
  | .dashes => "--"
  | .unknown text => text

/-- Sorts a word that is no option as it stands. -/
def sortOther (word : String) : Except Misuse Word :=
  match readings word.toList with
  | [reading] => .ok reading
  | [] =>
      if isNegativeNumber word.toList || word.toList.contains ' ' then .ok (.plain word)
      else .ok (.unknown word)
  | several => .error (.ambiguous word (several.map Word.name))

/-- Sorts a word that starts with a dash and has more than that. -/
def sortDashed (word : String) : Except Misuse Word :=
  match cutAtEquals word.toList with
  | some (name, argument) =>
      match choice? name with
      | some choice => .ok (.option choice name (some argument))
      | none => sortOther word
  | none => sortOther word

/-- Sorts a word in front of the two dashes. -/
def sortWord (word : String) : Except Misuse Word :=
  match choice? word with
  | some choice => .ok (.option choice word none)
  | none =>
      match word.toList with
      | '-' :: _ :: _ => sortDashed word
      | _ => .ok (.plain word)

def sortWords : List String → Except Misuse (List Word)
  | [] => .ok []
  | word :: rest =>
      if word = "--" then .ok (.dashes :: rest.map .plain)
      else
        match sortWord word with
        | .error misuse => .error misuse
        | .ok first =>
            match sortWords rest with
            | .error misuse => .error misuse
            | .ok others => .ok (first :: others)

/-- The argument of an option, or none if two dashes were written for it. -/
abbrev Argument := Option String

/-- The argument that a text attached to an option stands for. -/
def attachedArgument (attached : String) : Argument :=
  if attached = "--" then none else some attached

/-- What the words have said so far. -/
structure Reading where
  /-- The file of the catalogue, once the option for it is there. -/
  catalog : Option Argument
  json : Bool
  strict : Bool
  verbose : Bool
  query : Option String
  extras : List String
  deriving DecidableEq, Repr

def Reading.start : Reading :=
  ⟨none, false, false, false, none, []⟩

namespace Reading

/-- Takes a word for one that means nothing. -/
def addExtra (reading : Reading) (word : String) : Reading :=
  { reading with extras := reading.extras ++ [word] }

/-- Takes a plain word for the query, or for one that means nothing if the query is named. -/
def addPlain (reading : Reading) (word : String) : Reading :=
  match reading.query with
  | none => { reading with query := some word }
  | some _ => reading.addExtra word

end Reading

/-- How the reading of the words can end before its time. -/
inductive Stop where
  | help
  | misuse (misuse : Misuse)
  deriving DecidableEq, Repr

/-- The end of a word that asks for help and has more attached behind a single dash. What is
attached are letters of options again, up to one that takes an argument. Help is told if all of
them are known and the last one has the argument that it takes. -/
def helpCluster (argumentFollows : Bool) : List Char → Stop
  | [] => .help
  | letter :: rest =>
      match choice? (String.ofList ['-', letter]) with
      | some .catalog =>
          if rest.isEmpty && !argumentFollows then .misuse (.argumentExpected .catalog)
          else .help
      | some _ => helpCluster argumentFollows rest
      | none => .misuse (.argumentIgnored .help (String.ofList (letter :: rest)))

/-- The end of a word that asks for help by the given name and has something attached. -/
def helpWith (name attached : String) (argumentFollows : Bool) : Stop :=
  if attached.isEmpty || name.toList.take 2 = ['-', '-'] then
    .misuse (.argumentIgnored .help attached)
  else helpCluster argumentFollows attached.toList

def startsPlain : List Word → Bool
  | .plain _ :: _ => true
  | _ => false

def readWords (reading : Reading) : List Word → Except Stop Reading
  | [] => .ok reading
  | .unknown text :: rest => readWords (reading.addExtra text) rest
  | .dashes :: .plain text :: rest =>
      match reading.query with
      | none => readWords { reading with query := some text } rest
      | some _ => readWords ((reading.addExtra "--").addExtra text) rest
  | .dashes :: rest => readWords (reading.addExtra "--") rest
  | .plain text :: .dashes :: rest =>
      match reading.query with
      | none => readWords { reading with query := some text } rest
      | some _ => readWords ((reading.addExtra text).addExtra "--") rest
  | .plain text :: rest => readWords (reading.addPlain text) rest
  | .option .catalog _ (some attached) :: rest =>
      readWords { reading with catalog := some (attachedArgument attached) } rest
  | .option .catalog _ none :: .plain text :: rest =>
      readWords { reading with catalog := some (some text) } rest
  | .option .catalog _ none :: _ => .error (.misuse (.argumentExpected .catalog))
  | .option .help _ none :: _ => .error .help
  | .option .help name (some attached) :: rest =>
      .error (helpWith name attached (startsPlain rest))
  | .option choice _ (some attached) :: _ =>
      .error (.misuse (.argumentIgnored choice attached))
  | .option .json _ none :: rest => readWords { reading with json := true } rest
  | .option .strict _ none :: rest => readWords { reading with strict := true } rest
  | .option .verbose _ none :: rest => readWords { reading with verbose := true } rest

/-- What a command line asks for. -/
structure Settings where
  catalog : Argument
  json : Bool
  strict : Bool
  verbose : Bool
  query : String
  deriving DecidableEq, Repr

/-- The settings, if all that is required is there and nothing is left over. -/
def Reading.settings (reading : Reading) : Except Misuse Settings :=
  match reading.catalog, reading.query with
  | some catalog, some query =>
      if reading.extras.isEmpty then
        .ok ⟨catalog, reading.json, reading.strict, reading.verbose, query⟩
      else .error (.unrecognized reading.extras)
  | none, some _ => .error (.missing [Choice.label .catalog])
  | some _, none => .error (.missing ["query"])
  | none, none => .error (.missing [Choice.label .catalog, "query"])

/-- The settings that the words of a command line ask for. -/
def Settings.ofWords (words : List String) : Except Stop Settings :=
  match sortWords words with
  | .error misuse => .error (.misuse misuse)
  | .ok sorted =>
      match readWords .start sorted with
      | .error stop => .error stop
      | .ok reading => reading.settings.mapError .misuse

end Selectivity.CommandLine
