import Mathlib.Data.List.Forall2
import Selectivity.Catalog.File
import Selectivity.Proofs.Json.Rendering

/-!
# Catalogues and their documents

The document of a catalogue whose columns are called by texts is read as the catalogue, however it
is written: with any layout, and from any JSON text of it.
-/

namespace Selectivity

open Json

/-- All columns are called by texts. -/
def Catalog.Named (catalog : Catalog Relation) : Prop :=
  ∀ entry ∈ catalog.entries, ∀ column ∈ entry.2.attributes, ∃ text : String, column.name = text

/-- No count has more digits than the limit allows. -/
def Catalog.Within (limit : Option Nat) (catalog : Catalog Relation) : Prop :=
  ∀ entry ∈ catalog.entries, Text.exceeds limit (Text.digits entry.2.tupleCount) = false ∧
    ∀ column ∈ entry.2.attributes, Text.exceeds limit (Text.digits column.valueCount) = false

/-- The members of an object tell the name and the count of an attribute, in any order and among
others. -/
def Attribute.DescribedBy (column : Attribute) (document : Json) : Prop :=
  ∃ members, document = .object members ∧
    Entries.get? members "name" = some column.name.value ∧
    Entries.get? members "value_count" = some (.integer column.valueCount)

/-- The members of an object tell the size and the attributes of a relation. -/
def Relation.DescribedBy (relation : Relation) (document : Json) : Prop :=
  ∃ members documents, document = .object members ∧
    Entries.get? members "tuple_count" = some (.integer relation.tupleCount) ∧
    Entries.get? members "attributes" = some (.array documents) ∧
    List.Forall₂ Attribute.DescribedBy relation.attributes documents

/-- The members of an object are the relations of a catalogue in order. -/
def Catalog.DescribedBy (catalog : Catalog Relation) (document : Json) : Prop :=
  ∃ members, document = .object members ∧
    List.Forall₂ (fun entry member => member.1 = entry.1 ∧ entry.2.DescribedBy member.2)
      catalog.entries members

theorem Attribute.ofDocument_of_describedBy {column : Attribute} {document : Json}
    (plain : column.name.word = none) (described : column.DescribedBy document) :
    ofDocument document = .ok column := by
  obtain ⟨⟨name, word⟩, count, positive⟩ := column
  obtain ⟨members, rfl, called, counted⟩ := described
  cases plain
  have least : (1 : Int) ≤ count := by omega
  have made : Attribute.ofCount ⟨name, none⟩ (count : Int) = .ok ⟨⟨name, none⟩, count, positive⟩ :=
    dif_pos least
  simp only [ofDocument, Json.requiredMember, called, counted, Json.count, made]
  rfl

namespace Catalog

theorem readAttributes_of_describedBy {columns : List Attribute} {documents : List Json}
    (plain : ∀ column ∈ columns, column.name.word = none)
    (described : List.Forall₂ Attribute.DescribedBy columns documents) :
    readAttributes documents = .ok columns := by
  induction described with
  | nil => rfl
  | cons first others induction =>
      have here := Attribute.ofDocument_of_describedBy (plain _ List.mem_cons_self) first
      have later := induction fun other member => plain other (List.mem_cons_of_mem _ member)
      rw [readAttributes, here, later]

theorem readRelation_of_describedBy {relation : Relation} {document : Json}
    (plain : ∀ column ∈ relation.attributes, column.name.word = none)
    (described : relation.DescribedBy document) : readRelation document = .ok relation := by
  obtain ⟨members, documents, rfl, sized, listed, columns⟩ := described
  have count : tupleCountOf relation.tupleCount = .ok relation.tupleCount :=
    if_pos (Int.natCast_nonneg relation.tupleCount)
  simp only [readRelation, attributeDocuments, listed, readAttributes_of_describedBy plain columns,
    sized, Json.count, count]
  rfl

theorem readRelations_of_describedBy {entries : List (String × Relation)}
    {members : List (String × Json)}
    (plain : ∀ entry ∈ entries, ∀ column ∈ entry.2.attributes, column.name.word = none)
    (described : List.Forall₂ (fun entry member => member.1 = entry.1 ∧
      entry.2.DescribedBy member.2) entries members) : readRelations members = .ok entries := by
  induction described with
  | nil => rfl
  | @cons entry member _ _ first others induction =>
      obtain ⟨name, relation⟩ := entry
      obtain ⟨called, document⟩ := member
      obtain ⟨rfl, told⟩ := first
      have here := readRelation_of_describedBy (plain _ List.mem_cons_self) told
      have later := induction fun other member => plain other (List.mem_cons_of_mem _ member)
      rw [readRelations, here, later]

theorem ofList_entries {Base : Type} (catalog : Catalog Base) :
    ofList catalog.entries = catalog := by
  obtain ⟨entries, distinct⟩ := catalog
  rw [ofList, mk.injEq]
  exact Entries.ofList_of_distinct distinct

theorem Named.plain {catalog : Catalog Relation} (named : catalog.Named) :
    ∀ entry ∈ catalog.entries, ∀ column ∈ entry.2.attributes, column.name.word = none := by
  intro entry member column within
  obtain ⟨text, same⟩ := named entry member column within
  rw [same]

/-- A document of a catalogue is read as the catalogue. -/
theorem ofDocument_of_describedBy {catalog : Catalog Relation} {document : Json}
    (named : catalog.Named) (described : catalog.DescribedBy document) :
    ofDocument document = .ok catalog := by
  obtain ⟨members, rfl, relations⟩ := described
  rw [ofDocument, readRelations_of_describedBy named.plain relations]
  exact congrArg Except.ok catalog.ofList_entries

/-- The document that is written for a catalogue describes it. -/
theorem describedBy_document (catalog : Catalog Relation) :
    catalog.DescribedBy catalog.document := by
  refine ⟨_, rfl, List.forall₂_map_right_iff.mpr (List.forall₂_same.mpr fun entry _ => ?_)⟩
  refine ⟨rfl, _, entry.2.attributes.map Attribute.document, rfl, rfl, rfl, ?_⟩
  exact List.forall₂_map_right_iff.mpr (List.forall₂_same.mpr fun column _ => ⟨_, rfl, rfl, rfl⟩)

theorem exact_of_attribute {limit : Option Nat} {column : Attribute} {text : String}
    (named : column.name = text)
    (short : Text.exceeds limit (Text.digits column.valueCount) = false) :
    Exact limit column.document := by
  refine .object (show (["name", "value_count"] : List String).Nodup by decide)
    (List.forall_mem_cons.mpr ⟨?_, List.forall_mem_singleton.mpr (.integer short)⟩)
  rw [named]
  exact .string text

theorem exact_of_relation {limit : Option Nat} {relation : Relation}
    (named : ∀ column ∈ relation.attributes, ∃ text : String, column.name = text)
    (tuples : Text.exceeds limit (Text.digits relation.tupleCount) = false)
    (values : ∀ column ∈ relation.attributes,
      Text.exceeds limit (Text.digits column.valueCount) = false) :
    Exact limit relation.document := by
  refine .object (show (["tuple_count", "attributes"] : List String).Nodup by decide)
    (List.forall_mem_cons.mpr ⟨.integer tuples, List.forall_mem_singleton.mpr (.array ?_)⟩)
  intro item within
  obtain ⟨column, inside, rfl⟩ := List.mem_map.mp within
  obtain ⟨text, called⟩ := named column inside
  exact exact_of_attribute called (values column inside)

theorem exact_document {limit : Option Nat} {catalog : Catalog Relation} (named : catalog.Named)
    (within : catalog.Within limit) : Exact limit catalog.document := by
  have names : Entries.names (catalog.entries.map fun entry =>
      (entry.1, entry.2.document)) = Entries.names catalog.entries := by
    rw [Entries.names, List.map_map]
    rfl
  refine .object (by rw [names]; exact catalog.distinct) fun member listed => ?_
  obtain ⟨⟨name, relation⟩, stored, rfl⟩ := List.mem_map.mp listed
  obtain ⟨tuples, values⟩ := within _ stored
  exact exact_of_relation (named _ stored) tuples values

theorem Named.document?_eq {catalog : Catalog Relation} (named : catalog.Named) :
    catalog.document? = some catalog.document := by
  refine if_pos (List.all_eq_true.mpr fun entry member => ?_)
  refine List.all_eq_true.mpr fun column within => ?_
  rw [Label.isWritable, named.plain entry member column within]

theorem within_of_writable {catalog : Catalog Relation}
    (writable : ∀ entry ∈ catalog.entries, entry.2.isWritable = true) :
    catalog.Within (some Text.digitLimit) := by
  intro entry member
  have each := writable entry member
  simp only [Relation.isWritable, Bool.and_eq_true, Bool.not_eq_true', List.all_eq_true] at each
  exact ⟨Text.exceeds_digits_eq_false each.1,
    fun column within => Text.exceeds_digits_eq_false (each.2 column within)⟩

section Files

variable {limit : Option Nat} {document : Json} {files : Files} {path content : String}

/-- A file that holds any JSON text of a document is loaded like the document. -/
theorem ofFileWithin_of_writes (suffix : pathFormat path = ".json")
    (stored : files path = .ok content) (writes : WritesFile limit document content.toList) :
    ofFileWithin limit .bySuffix files path = ofDocument document := by
  have other : ¬ pathFormat path = ".csv" := by
    rw [suffix]
    decide
  simp only [ofFileWithin, if_neg other, if_pos suffix, ofDocumentFile, Files.characters, stored,
    writes.read]

/-- A file that holds any JSON text of a document of a catalogue is loaded as the catalogue. -/
theorem ofFileWithin_of_describedBy {catalog : Catalog Relation} (named : catalog.Named)
    (described : catalog.DescribedBy document) (suffix : pathFormat path = ".json")
    (stored : files path = .ok content) (writes : WritesFile limit document content.toList) :
    ofFileWithin limit .bySuffix files path = .ok catalog :=
  (ofFileWithin_of_writes suffix stored writes).trans (ofDocument_of_describedBy named described)

end Files

end Catalog

end Selectivity
