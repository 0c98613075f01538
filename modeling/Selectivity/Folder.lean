import Selectivity.Entries
import Selectivity.Text.FileName

/-!
# Folders

A folder holds files under their names and no other folders. A path is followed part by part from
the folder; an empty part and a single point stay where they are, and two points lead to a folder
above, in which nothing else is found. The path has to end at a file.
-/

namespace Selectivity

/-- Why a file cannot be read. -/
inductive FileFault where
  | notFound
  | notAFolder
  | isAFolder
  | nameTooLong
  | nullCharacter
  deriving DecidableEq, Repr

/-- What is found at the paths of files. -/
abbrev Files := String → Except FileFault String

/-- A folder. -/
structure Folder where
  files : List (String × String)
  deriving DecidableEq, Repr

namespace Folder

/-- The folder with files at the given paths; of two files at one path the later one counts. -/
def ofFiles (files : List (String × String)) : Folder :=
  ⟨Entries.ofList (files.map fun (path, content) =>
    (String.ofList (Text.joinParts (Text.pathParts path.toList)), content))⟩

/-- Where a path has led to. -/
inductive Place where
  | here
  | above
  | file (content : String)
  deriving DecidableEq, Repr

/-- The most bytes of a name. -/
def nameLimit : Nat :=
  255

/-- The most bytes of a path. -/
def pathLimit : Nat :=
  4095

def enter (folder : Folder) (place : Place) (name : String) : Except FileFault Place :=
  if nameLimit < name.utf8ByteSize then .error .nameTooLong
  else
    match place, Entries.get? folder.files name with
    | .here, some content => .ok (.file content)
    | _, _ => .error .notFound

/-- What the next part of a path leads to. -/
def step (folder : Folder) (place : Place) (part : List Char) : Except FileFault Place :=
  match place with
  | .file _ => .error .notAFolder
  | place =>
      if part = [] ∨ part = ['.'] then .ok place
      else if part = ['.', '.'] then .ok .above
      else folder.enter place (String.ofList part)

/-- What the parts of a path lead to. -/
def follow (folder : Folder) (place : Place) : List (List Char) → Except FileFault Place
  | [] => .ok place
  | part :: rest =>
      match folder.step place part with
      | .ok next => folder.follow next rest
      | .error fault => .error fault

/-- The content of the file at a path. A path that starts with a slash starts above. -/
def read (folder : Folder) : Files := fun path =>
  if path.toList.contains '\x00' then .error .nullCharacter
  else if path.isEmpty then .error .notFound
  else if pathLimit < path.utf8ByteSize then .error .nameTooLong
  else
    let start := if path.toList.head? = some '/' then .above else .here
    match folder.follow start (Text.splitAt '/' path.toList) with
    | .ok (.file content) => .ok content
    | .ok _ => .error .isAFolder
    | .error fault => .error fault

end Folder

end Selectivity
