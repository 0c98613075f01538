import Selectivity.Catalog.Basic
import Selectivity.Plan.Basic

/-!
# The store of shared statistics

Attributes, relations, nodes and catalogues are kept in a store and known by references, because
several things can share one of them: two relations an attribute, a scan and a catalogue a
relation, two operators an input. A change is seen wherever the changed thing is shared. Nothing
is ever removed, and a new thing gets a reference that was not in use.

A node holds the nodes below it, so its shape cannot change. Its output is kept apart, under the
reference of the node.
-/

namespace Selectivity

/-- A reference to an attribute. -/
structure AttributeRef where
  index : Nat
  deriving DecidableEq, Repr

/-- A reference to a relation. -/
structure RelationRef where
  index : Nat
  deriving DecidableEq, Repr

/-- A reference to a node. -/
structure NodeRef where
  index : Nat
  deriving DecidableEq, Repr

/-- A reference to a catalogue. -/
structure CatalogRef where
  index : Nat
  deriving DecidableEq, Repr

/-- A relation whose attributes are kept elsewhere. -/
structure RelationCell where
  tupleCount : Nat
  attributes : List AttributeRef
  deriving DecidableEq, Repr

/-- An operator with the reference of its node. -/
structure PlacedOperator where
  ref : NodeRef
  operator : Operator RelationRef
  deriving DecidableEq, Repr

/-- A node with all nodes below it. A node that is used twice occurs twice, under one
reference. -/
abbrev Node := Tree PlacedOperator

namespace Node

def ref (node : Node) : NodeRef :=
  node.label.ref

def operator (node : Node) : Operator RelationRef :=
  node.label.operator

def caption (node : Node) : String :=
  node.operator.caption

end Node

/-- A node and the relation that it puts out, once that is known. -/
structure NodeCell where
  node : Node
  output : Option RelationRef
  deriving Repr

/-- Everything that is shared. -/
structure Store where
  attributes : Array Attribute
  relations : Array RelationCell
  nodes : Array NodeCell
  catalogs : Array (Catalog RelationRef)

namespace Store

/-- The store in which nothing is kept. -/
def empty : Store :=
  ⟨#[], #[], #[], #[]⟩

def attribute? (store : Store) (ref : AttributeRef) : Option Attribute :=
  store.attributes[ref.index]?

/-- The cell of the relation at a reference. -/
def cell? (store : Store) (ref : RelationRef) : Option RelationCell :=
  store.relations[ref.index]?

def relationOf (store : Store) (cell : RelationCell) : Relation :=
  ⟨cell.tupleCount, cell.attributes.filterMap store.attribute?⟩

/-- The relation at a reference, as it is now. At a reference that is not in use it is the empty
relation without attributes. -/
def relation (store : Store) (ref : RelationRef) : Relation :=
  match store.cell? ref with
  | some cell => store.relationOf cell
  | none => ⟨0, []⟩

/-- The first attribute of a name in the relation at a reference. -/
def findAttribute? (store : Store) (ref : RelationRef) (name : Label) :
    Option AttributeRef :=
  match store.cell? ref with
  | none => none
  | some cell =>
      cell.attributes.find? fun column =>
        match store.attribute? column with
        | some found => found.name == name
        | none => false

def node? (store : Store) (ref : NodeRef) : Option Node :=
  (store.nodes[ref.index]?).map NodeCell.node

/-- What the node at a reference puts out. -/
def output? (store : Store) (ref : NodeRef) : Option RelationRef :=
  (store.nodes[ref.index]?).bind NodeCell.output

/-- The relation that the node at a reference puts out, as it is now. -/
def outputRelation? (store : Store) (ref : NodeRef) : Option Relation :=
  (store.output? ref).map store.relation

/-- The plan of a node: its shape, with the statistics that the store has now. -/
def plan (store : Store) (node : Node) : Plan :=
  node.map fun placed =>
    ⟨placed.operator.mapBase store.relation, store.outputRelation? placed.ref⟩

def catalog? (store : Store) (ref : CatalogRef) : Option (Catalog RelationRef) :=
  store.catalogs[ref.index]?

/-- The statistics in a catalogue, as they are now. -/
def catalogRelations (store : Store) (catalog : Catalog RelationRef) : Catalog Relation :=
  catalog.map store.relation

def addAttribute (store : Store) (column : Attribute) : Store × AttributeRef :=
  let ref := ⟨store.attributes.size⟩
  ({ store with attributes := store.attributes.push column }, ref)

def addAttributes (store : Store) : List Attribute → Store × List AttributeRef
  | [] => (store, [])
  | column :: rest =>
      let (store, first) := store.addAttribute column
      let (store, others) := store.addAttributes rest
      (store, first :: others)

/-- Keeps a new relation of attributes that are kept already. -/
def addCell (store : Store) (cell : RelationCell) : Store × RelationRef :=
  let ref := ⟨store.relations.size⟩
  ({ store with relations := store.relations.push cell }, ref)

/-- Keeps a new relation with attributes of its own. -/
def addRelation (store : Store) (relation : Relation) : Store × RelationRef :=
  let (store, columns) := store.addAttributes relation.attributes
  store.addCell ⟨relation.tupleCount, columns⟩

/-- Keeps a new node whose output is not known. -/
def addNode (store : Store) (operator : Operator RelationRef) (inputs : List Node) :
    Store × Node :=
  let node := Tree.node ⟨⟨store.nodes.size⟩, operator⟩ inputs
  ({ store with nodes := store.nodes.push ⟨node, none⟩ }, node)

def addCatalog (store : Store) (catalog : Catalog RelationRef) : Store × CatalogRef :=
  let ref := ⟨store.catalogs.size⟩
  ({ store with catalogs := store.catalogs.push catalog }, ref)

def addEntries (store : Store) :
    List (String × Relation) → Store × List (String × RelationRef)
  | [] => (store, [])
  | (name, relation) :: rest =>
      let (store, ref) := store.addRelation relation
      let (store, others) := store.addEntries rest
      (store, (name, ref) :: others)

/-- Keeps a new catalogue with relations of its own. -/
def addStatistics (store : Store) (catalog : Catalog Relation) : Store × CatalogRef :=
  let (store, entries) := store.addEntries catalog.entries
  store.addCatalog (.ofList entries)

def replaceAttribute (store : Store) (ref : AttributeRef) (column : Attribute) : Store :=
  { store with attributes := store.attributes.setIfInBounds ref.index column }

def appendAttribute (store : Store) (ref : RelationRef) (column : AttributeRef) : Store :=
  { store with
    relations := store.relations.modify ref.index fun cell =>
      { cell with attributes := cell.attributes ++ [column] } }

def setOutput (store : Store) (ref : NodeRef) (output : RelationRef) : Store :=
  { store with
    nodes := store.nodes.modify ref.index fun cell => { cell with output := some output } }

/-- Says what a node puts out by a new relation. -/
def fill (store : Store) (ref : NodeRef) (output : Relation) : Store :=
  let (store, relation) := store.addRelation output
  store.setOutput ref relation

def putRelation (store : Store) (ref : CatalogRef) (name : String) (relation : RelationRef) :
    Store :=
  { store with
    catalogs := store.catalogs.modify ref.index fun catalog => catalog.add name relation }

end Store

end Selectivity
