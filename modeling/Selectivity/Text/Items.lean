import Selectivity.Text.Blank

/-!
# Items of a list

Lists are written with commas, and blanks around an item do not count. A separator is a comma
with all blanks on both sides; the list is scanned from left to right for the first place where
a separator starts.
-/

namespace Selectivity.Text

/-- What follows a separator that starts here, if one does. -/
def afterSeparator? (text : List Char) : Option (List Char) :=
  match trimStart text with
  | ',' :: rest => some (trimStart rest)
  | _ => none

theorem length_trimStart_le (text : List Char) :
    (trimStart text).length ≤ text.length :=
  (List.dropWhile_sublist isBlank).length_le

theorem afterSeparator?_length {text rest : List Char}
    (found : afterSeparator? text = some rest) : rest.length < text.length := by
  unfold afterSeparator? at found
  split at found
  · next tail comma =>
      cases found
      have shorter := length_trimStart_le text
      have tailShorter := length_trimStart_le tail
      rw [comma, List.length_cons] at shorter
      omega
  · cases found

/-- Cuts a text at its separators; `item` holds the characters of the current item, last one
first. -/
def cutItems (item : List Char) (text : List Char) : List (List Char) :=
  match _found : afterSeparator? text with
  | some rest => item.reverse :: cutItems [] rest
  | none =>
      match text with
      | [] => [item.reverse]
      | character :: rest => cutItems (character :: item) rest
termination_by text.length
decreasing_by
  · exact afterSeparator?_length ‹_›
  · simp

/-- The items of a list, without the blanks around them. -/
def items (text : List Char) : List (List Char) :=
  (cutItems [] (trim text)).map trim

end Selectivity.Text
