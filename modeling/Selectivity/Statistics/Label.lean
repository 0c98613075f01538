import Selectivity.Json.Agreement
import Selectivity.Number.Word

/-!
# Labels

What a column is called. Queries and conditions know columns by texts only, but a catalogue can
call a column by any value, and a table can give out such a value as a word.
-/

namespace Selectivity

/-- What a column is called. -/
structure Label where
  /-- A text as a rule, or any other value. -/
  value : Json
  /-- The kind of word in which the value stands, if it stands in one. -/
  word : Option WordKind
  deriving DecidableEq, Repr

/-- A value is a label. -/
instance : Coe Json Label :=
  ⟨fun value => ⟨value, none⟩⟩

/-- A text is a label. -/
instance : Coe String Label :=
  ⟨fun text => ⟨.string text, none⟩⟩

namespace Label

theorem ofText_inj {first second : String} : (first : Label) = (second : Label) ↔ first = second := by
  constructor
  · intro same
    exact Json.string.inj (congrArg Label.value same)
  · rintro rfl
    rfl

/-- The form of a label in a line of text. -/
def display (label : Label) : String :=
  label.value.display

/-- The form of a label as a literal. -/
def literal (label : Label) : String :=
  match label.word with
  | none => label.value.literal
  | some kind => kind.literal label.value.literal

/-- Is the label a list or an object? -/
def isCompound (label : Label) : Bool :=
  label.value.isCompound

/-- Can the label be written to a document? -/
def isWritable (label : Label) : Bool :=
  match label.word with
  | none => true
  | some kind => kind == .real

def agrees (left right : Label) : Bool :=
  left.value.agrees right.value

end Label

end Selectivity
