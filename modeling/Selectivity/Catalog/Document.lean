import Selectivity.Catalog.Basic
import Selectivity.Catalog.Fault
import Selectivity.Json.Display
import Selectivity.Plan.Document

/-!
# Catalogues as JSON

The document of a catalogue maps each name to the size and the attributes of its relation. In
reading, the attributes of a relation are looked at before its size; the first fault ends the
reading.
-/

namespace Selectivity

/-- The count that a value is. Numbers that are not whole and truth values are compared with the
bounds like whole numbers, but what is made of them is no relation of this library. -/
def Json.count : Json → Except CatalogFault Int
  | .integer value => .ok value
  | .real _ => .error (.statistic .notWhole)
  | .boolean _ => .error (.statistic .notWhole)
  | _ => .error .wrongKind

/-- A member that has to be there. -/
def Json.requiredMember (document : Json) (name : String) : Except CatalogFault Json :=
  match document with
  | .object members =>
      match Entries.get? members name with
      | some value => .ok value
      | none => .error .missingMember
  | _ => .error .wrongKind

/-- The attribute that a document describes; the name is looked for before the count. -/
def Attribute.ofDocument (document : Json) : Except CatalogFault Attribute :=
  match document.requiredMember "name" with
  | .error fault => .error fault
  | .ok name =>
      match document.requiredMember "value_count" with
      | .error fault => .error fault
      | .ok value =>
          match value.count with
          | .error fault => .error fault
          | .ok count => (Attribute.ofCount name count).mapError .statistic

namespace Catalog

/-- The attributes that documents describe, up to the first fault. -/
def readAttributes : List Json → Except CatalogFault (List Attribute)
  | [] => .ok []
  | document :: rest =>
      match Attribute.ofDocument document with
      | .error fault => .error fault
      | .ok column =>
          match readAttributes rest with
          | .error fault => .error fault
          | .ok columns => .ok (column :: columns)

/-- The documents of the attributes in the document of a relation. Without such a member, or
with an empty text or object in its place, there are none. -/
def attributeDocuments (members : List (String × Json)) : Except CatalogFault (List Json) :=
  match Entries.get? members "attributes" with
  | none => .ok []
  | some (.array documents) => .ok documents
  | some (.object []) => .ok []
  | some (.string text) => if text.isEmpty then .ok [] else .error .wrongKind
  | some _ => .error .wrongKind

def readRelation : Json → Except CatalogFault Relation
  | .object members =>
      match attributeDocuments members with
      | .error fault => .error fault
      | .ok documents =>
          match readAttributes documents with
          | .error fault => .error fault
          | .ok columns =>
              match Entries.get? members "tuple_count" with
              | none => .error .missingMember
              | some value =>
                  match value.count with
                  | .error fault => .error fault
                  | .ok count =>
                      ((tupleCountOf count).mapError .statistic).map fun tupleCount =>
                        ⟨tupleCount, columns⟩
  | _ => .error .notAnObject

/-- The relations that the members of a document describe, up to the first fault. -/
def readRelations : List (String × Json) → Except CatalogFault (List (String × Relation))
  | [] => .ok []
  | (name, document) :: rest =>
      match readRelation document with
      | .error fault => .error fault
      | .ok relation =>
          match readRelations rest with
          | .error fault => .error fault
          | .ok relations => .ok ((name, relation) :: relations)

def ofDocument : Json → Except CatalogFault (Catalog Relation)
  | .object members => (readRelations members).map ofList
  | _ => .error .notAnObject

def document (catalog : Catalog Relation) : Json :=
  .object (catalog.entries.map fun (name, relation) => (name, relation.document))

/-- The document of a catalogue, if it can be written. -/
def document? (catalog : Catalog Relation) : Option Json :=
  if catalog.entries.all fun (_, relation) => relation.hasWritableNames then
    some catalog.document
  else none

end Catalog

end Selectivity
