import Selectivity.Statistics.Attribute
import Selectivity.Text.Numeral

/-!
# Relations

A relation is a number of tuples and a list of attributes. Names may occur more than once; a
look-up finds the first attribute of a name.
-/

namespace Selectivity

/-- The statistics of a relation. -/
structure Relation where
  tupleCount : Nat
  attributes : List Attribute
  deriving DecidableEq, Repr

/-- Attributes that were looked for, and the relations in which none of them was found. -/
structure MissingAttribute where
  attributes : List String
  schemas : List String
  deriving DecidableEq, Repr

/-- The text that tells a missing attribute. -/
def MissingAttribute.message (fault : MissingAttribute) : String :=
  "Attribute " ++ String.intercalate " or " fault.attributes ++ " not found in " ++
    String.intercalate " or " fault.schemas

/-- A natural number for an offered tuple count, if the count is not negative. -/
def tupleCountOf (count : Int) : Except StatisticFault Nat :=
  if 0 ≤ count then .ok count.toNat
  else .error (.ofRefusal count (.negativeTupleCount count))

theorem mapM_of_ite {Item Value : Type} {look : Item → Option Value} {good : Item → Bool}
    {image : Item → Value}
    (looks : ∀ item, look item = if good item then some (image item) else none)
    (items : List Item) :
    items.mapM look = if items.all good then some (items.map image) else none := by
  induction items with
  | nil => rfl
  | cons item rest induction =>
      rw [List.mapM_cons, induction, looks]
      cases here : good item <;> cases there : rest.all good <;> simp [here, there]

namespace Relation

/-- The names of the attributes, in order and with repetitions. -/
def attributeNames (relation : Relation) : List Label :=
  relation.attributes.map Attribute.name

def lookup? (relation : Relation) (name : Label) : Option Attribute :=
  relation.attributes.find? fun column => column.name == name

def contains (relation : Relation) (name : Label) : Bool :=
  (relation.lookup? name).isSome

/-- The short form, such as `[a:10, b:5] (100 tuples)`. -/
def render (relation : Relation) : String :=
  "[" ++ String.intercalate ", " (relation.attributes.map Attribute.render) ++
    s!"] ({relation.tupleCount} tuples)"

def expression (relation : Relation) : String :=
  s!"Relation(tuple_count={relation.tupleCount}, attributes=[" ++
    String.intercalate ", " (relation.attributes.map Attribute.expression) ++ "])"

/-- Is some attribute called by a list or an object? -/
def hasCompoundName (relation : Relation) : Bool :=
  relation.attributes.any fun column => column.name.isCompound

theorem hasCompoundName_congr {first second : Relation}
    (same : first.attributeNames = second.attributeNames) :
    first.hasCompoundName = second.hasCompoundName := by
  have names (relation : Relation) :
      relation.hasCompoundName = relation.attributeNames.any Label.isCompound := by
    rw [attributeNames, List.any_map]
    rfl
  rw [names, names, same]

/-- Do two relations have the same size and attributes that agree in order? -/
def agrees (left right : Relation) : Bool :=
  left.tupleCount == right.tupleCount &&
    left.attributes.isEqv right.attributes Attribute.agrees

/-- Can all counts be written? -/
def isWritable (relation : Relation) : Bool :=
  !Text.exceedsDigits relation.tupleCount &&
    relation.attributes.all fun column => !Text.exceedsDigits column.valueCount

/-- The short form, if all counts can be written. -/
def render? (relation : Relation) : Option String :=
  if relation.isWritable then some relation.render else none

@[simp]
theorem isSome_render? (relation : Relation) :
    relation.render?.isSome = relation.isWritable := by
  rw [render?]
  split <;> simp_all

/-- The short forms of several relations, if all of their counts can be written. -/
theorem mapM_render? (relations : List Relation) :
    relations.mapM render? =
      if relations.all isWritable then some (relations.map render) else none :=
  mapM_of_ite (fun _ => rfl) relations

/-- The value count of the first attribute of a name. -/
def valueCount (relation : Relation) (name : String) : Except MissingAttribute Nat :=
  match relation.lookup? name with
  | some column => .ok column.valueCount
  | none => .error ⟨[name], [relation.render]⟩

end Relation

end Selectivity
