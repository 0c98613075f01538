import Selectivity.Json.Value
import Selectivity.Plan.Basic

/-!
# Statistics and plans as JSON

The documents that are written for statistics, conditions and plans. A plan comes with the
relations that its nodes put out. An attribute whose name is a word has a document, but that cannot
be written unless the word is a 64-bit number.
-/

namespace Selectivity

def Attribute.document (column : Attribute) : Json :=
  .object [("name", column.name.value), ("value_count", .integer column.valueCount)]

def Relation.document (relation : Relation) : Json :=
  .object [("tuple_count", .integer relation.tupleCount),
    ("attributes", .array (relation.attributes.map Attribute.document))]

/-- Can the names of all attributes be written? -/
def Relation.hasWritableNames (relation : Relation) : Bool :=
  relation.attributes.all fun column => column.name.isWritable

/-- The document of an attribute, if it can be written. -/
def Attribute.document? (column : Attribute) : Option Json :=
  if column.name.isWritable then some column.document else none

/-- The document of a relation, if it can be written. -/
def Relation.document? (relation : Relation) : Option Json :=
  if relation.hasWritableNames then some relation.document else none

def Comparison.document (comparison : Comparison) : Json :=
  .object [("type", .string "attribute"), ("left", .string comparison.left),
    ("right", .string comparison.right)]

def Predicate.document : Predicate → Json
  | .equalsValue column value =>
      .object [("type", .string "value"), ("attribute", .string column),
        ("value", .string value)]
  | .equalsAttribute comparison => comparison.document

/-- The document of something that may be missing. -/
def optionalDocument {α : Type} (document : α → Json) : Option α → Json
  | none => .null
  | some value => document value

/-- The members of a node's document that are particular to its operator. -/
def Operator.members {Base : Type} : Operator Base → List (String × Json)
  | .scan name _ => [("relation", .string name)]
  | .project attributes => [("attributes", .array (attributes.map Json.string))]
  | .select condition => [("predicate", optionalDocument Predicate.document condition)]
  | .product => []
  | .join condition => [("predicate", condition.document)]
  | .foreign _ => []

def Plan.document : Plan → Json :=
  Tree.fold fun node below =>
    .object ([("node_type", .string node.operator.kind),
      ("output", optionalDocument Relation.document node.output),
      ("children", .array below)] ++ node.operator.members)

/-- The document of a plan, if it can be written. -/
def Plan.document? (plan : Plan) : Option Json :=
  if plan.preorder.all fun node => node.output.all Relation.hasWritableNames then
    some plan.document
  else none

end Selectivity
