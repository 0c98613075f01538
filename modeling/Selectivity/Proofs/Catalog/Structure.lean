import Selectivity.Proofs.Catalog.Counts
import Selectivity.Proofs.Catalog.Rows
import Selectivity.Proofs.Estimation.Labels
import Selectivity.Proofs.Json.Limits

/-!
# Catalogue files of the documented structure

Loading a file of the documented structure, with integers wherever a count is needed, gives a
catalogue whose attributes are called by texts, unless a count is out of bounds or has too many
digits to be read. There is no other way in which it can end.
-/

namespace Selectivity

namespace Json

/-- An object that tells the name and the count of an attribute. -/
def IsAttribute (document : Json) : Prop :=
  ∃ members name count, document = .object members ∧
    Entries.get? members "name" = some (.string name) ∧
    Entries.get? members "value_count" = some (.integer count)

/-- An object that tells the size of a relation, and its attributes if it has any. -/
def IsRelation (document : Json) : Prop :=
  ∃ members count, document = .object members ∧
    Entries.get? members "tuple_count" = some (.integer count) ∧
    (Entries.get? members "attributes" = none ∨
      ∃ documents, Entries.get? members "attributes" = some (.array documents) ∧
        ∀ document ∈ documents, document.IsAttribute)

/-- In the rest of a text, escaped halves of surrogate pairs stand only in pairs, the first half
right before the second. The flag tells whether a first half has just been read. -/
def pairsHalves (pending : Bool) : List Char → Bool
  | '\\' :: 'u' :: first :: second :: third :: fourth :: rest =>
      match unitValue? first second third fourth with
      | some unit =>
          if isHighSurrogate unit then !pending && pairsHalves true rest
          else pending == isLowSurrogate unit && pairsHalves false rest
      | none => false
  | '\\' :: _ :: rest => !pending && pairsHalves false rest
  | _ :: rest => !pending && pairsHalves false rest
  | [] => !pending

/-- An object whose members tell relations. -/
def IsCatalog (document : Json) : Prop :=
  ∃ members, document = .object members ∧ ∀ member ∈ members, member.2.IsRelation

end Json

/-- An entry is an integer: it is read as one, or it is a text that would be read as one if it had
fewer digits. -/
inductive Cell.IsInteger : Cell → Prop where
  | read {cell : Cell} {count : Int} (read : cell.count = .ok count) : IsInteger cell
  | numeral {text : String}
      (digits : (Text.unsigned? (Text.splitSign
        (Text.trimWhere Text.isNumeralBlank text.toList)).2).isSome = true) :
      IsInteger (.text text)

/-- The entry is there and is an integer. -/
def Entry.IsInteger (entry : Entry) : Prop :=
  ∃ cell, entry = .ok cell ∧ cell.IsInteger

/-- The counts that a row needs are integers: the size of its relation, and the value count if it
has an attribute. -/
structure CatalogRow.HoldsCounts (row : CatalogRow) : Prop where
  tuples : row.tuples.IsInteger
  column : ∃ cell, row.column = .ok cell ∧ (cell.isMissing = true ∨ row.values.IsInteger)

/-- A file of rows or a JSON file of the documented structure, with integers of any size for all
counts. The texts in a JSON file are rows of characters and have no single halves of surrogate
pairs. -/
inductive Catalog.Documented (files : Files) (path : String) : Prop where
  | rows {content : String} {frame : Frame} {rows : List CatalogRow}
      (suffix : pathFormat path = ".csv")
      (stored : files (String.ofList (Text.normalPath path.toList)) = .ok content)
      (table : Csv.frame (fun name => name == "relation" || name == "attribute")
        content.toList = .ok frame)
      (found : CatalogRow.ofFrame .standard frame = .ok rows)
      (counts : ∀ row ∈ rows, row.HoldsCounts)
  | document {content : String} {document : Json} (suffix : pathFormat path = ".json")
      (stored : files path = .ok content)
      (paired : Json.pairsHalves false content.toList = true)
      (read : Json.readWithin none content.toList = .ok document)
      (shape : document.IsCatalog)

/-- A count is out of bounds, or has too many digits to be read. -/
inductive CatalogFault.BadCount : CatalogFault → Prop where
  | statistic {refused : StatisticFault} (genuine : refused.Genuine) :
      BadCount (.statistic refused)
  | entry : BadCount (.count .notANumber)
  | number : BadCount (.document .tooManyDigits)

/-- A reading gives something good, or finds a bad count. -/
inductive Concludes {Read : Type} (good : Read → Prop) : Except CatalogFault Read → Prop where
  | read {value : Read} (holds : good value) : Concludes good (.ok value)
  | refused {fault : CatalogFault} (bad : fault.BadCount) : Concludes good (.error fault)

namespace Concludes

variable {Read Other : Type} {good : Read → Prop} {better : Other → Prop}
  {reading : Except CatalogFault Read}

theorem cases (concludes : Concludes good reading) :
    (∃ value, reading = .ok value ∧ good value) ∨
      ∃ fault, reading = .error fault ∧ fault.BadCount := by
  cases concludes with
  | read holds => exact Or.inl ⟨_, rfl, holds⟩
  | refused bad => exact Or.inr ⟨_, rfl, bad⟩

theorem value (concludes : Concludes good reading) {value : Read} (read : reading = .ok value) :
    good value := by
  cases concludes with
  | read holds =>
      cases read
      exact holds
  | refused bad => cases read

theorem error (concludes : Concludes good reading) {fault : CatalogFault}
    (failed : reading = .error fault) : Concludes better (.error fault) := by
  cases concludes with
  | read holds => cases failed
  | refused bad =>
      cases failed
      exact .refused bad

theorem map {image : Read → Other} (first : Concludes good reading)
    (kept : ∀ value, good value → better (image value)) : Concludes better (reading.map image) := by
  cases first with
  | read holds => exact .read (kept _ holds)
  | refused bad => exact .refused bad

theorem statistic {answer : Except StatisticFault Read}
    (genuine : ∀ refused, answer = .error refused → refused.Genuine)
    (kept : ∀ value, answer = .ok value → good value) :
    Concludes good (answer.mapError .statistic) := by
  cases answer with
  | ok value => exact .read (kept value rfl)
  | error fault => exact .refused (.statistic (genuine fault rfl))

end Concludes

theorem Attribute.name_of_ofCount {name : Label} {count : Int} {column : Attribute}
    (made : ofCount name count = .ok column) : column.name = name := by
  rcases ofCount_cases name count with ⟨-, told⟩ | ⟨-, found, told, same, -⟩
  · rw [told] at made
    cases made
  · rw [told] at made
    cases made
    exact same

namespace Catalog

/-- The attributes are called by texts. -/
abbrev TextNames (columns : List Attribute) : Prop :=
  ∀ column ∈ columns, ∃ text : String, column.name = text

theorem readAttributes_concludes {documents : List Json}
    (shape : ∀ document ∈ documents, document.IsAttribute) :
    Concludes TextNames (readAttributes documents) := by
  induction documents with
  | nil => exact .read nofun
  | cons document rest induction =>
      obtain ⟨⟨members, name, count, rfl, called, counted⟩, later⟩ := List.forall_mem_cons.mp shape
      have first : Concludes (fun column => column.name = (name : Label))
          (Attribute.ofDocument (.object members)) := by
        simp only [Attribute.ofDocument, Json.requiredMember, called, counted, Json.count]
        exact .statistic (fun _ => Attribute.genuine_of_ofCount)
          fun column made => Attribute.name_of_ofCount made
      rw [readAttributes]
      split
      · next failed => exact first.error failed
      · next made =>
          split
          · next failed => exact (induction later).error failed
          · next read =>
              exact .read (List.forall_mem_cons.mpr
                ⟨⟨name, first.value made⟩, (induction later).value read⟩)

theorem readRelation_concludes {document : Json} (shape : document.IsRelation) :
    Concludes Relation.Named (readRelation document) := by
  obtain ⟨members, count, rfl, sized, listed⟩ := shape
  have columns : ∃ documents, attributeDocuments members = .ok documents ∧
      ∀ document ∈ documents, document.IsAttribute := by
    rcases listed with none | ⟨documents, some, shape⟩
    · exact ⟨[], by rw [attributeDocuments, none], nofun⟩
    · exact ⟨documents, by rw [attributeDocuments, some], shape⟩
  obtain ⟨documents, found, shape⟩ := columns
  simp only [readRelation, found, sized, Json.count]
  split
  · next failed => exact (readAttributes_concludes shape).error failed
  · next read =>
      have named := (readAttributes_concludes shape).value read
      exact (Concludes.statistic (fun _ => genuine_of_tupleCountOf) fun _ _ => True.intro).map
        fun tupleCount _ => named

theorem readRelations_concludes {members : List (String × Json)}
    (shape : ∀ member ∈ members, member.2.IsRelation) :
    Concludes (fun entries => ∀ entry ∈ entries, entry.2.Named) (readRelations members) := by
  induction members with
  | nil => exact .read nofun
  | cons member rest induction =>
      obtain ⟨here, later⟩ := List.forall_mem_cons.mp shape
      rw [readRelations]
      split
      · next failed => exact (readRelation_concludes here).error failed
      · next made =>
          split
          · next failed => exact (induction later).error failed
          · next read =>
              exact .read (List.forall_mem_cons.mpr
                ⟨(readRelation_concludes here).value made, (induction later).value read⟩)

theorem ofDocument_concludes {document : Json} (shape : document.IsCatalog) :
    Concludes Catalog.Named (ofDocument document) := by
  obtain ⟨members, rfl, relations⟩ := shape
  exact (readRelations_concludes relations).map fun entries named entry member =>
    named entry (Entries.mem_of_mem_ofList member)

end Catalog

theorem Entry.IsInteger.count_concludes {entry : Entry} (integer : entry.IsInteger) :
    Concludes (fun _ => True) entry.count := by
  obtain ⟨cell, rfl, integer⟩ := integer
  rw [Entry.count]
  cases integer with
  | read read =>
      rw [read]
      exact .read True.intro
  | @numeral text digits =>
      rw [Cell.count]
      cases Text.integer? text.toList with
      | none => exact .refused .entry
      | some number => exact .read True.intro

namespace CatalogRow

/-- A row that names its relation and its attribute by texts, and holds the counts that it needs. -/
structure Legible (row : CatalogRow) : Prop extends row.HoldsCounts where
  relation : row.relation.IsName
  names : ∀ cell, row.column = .ok cell →
    cell = .missing ∨ ∃ text, cell = .text text ∧ row.word = none

theorem legible_of_frame {text : List Char} {frame : Frame} {rows : List CatalogRow}
    (table : Csv.frame (fun name => name == "relation" || name == "attribute") text = .ok frame)
    (found : ofFrame .standard frame = .ok rows) (counts : ∀ row ∈ rows, row.HoldsCounts) :
    ∀ row ∈ rows, row.Legible := by
  obtain ⟨relations, named, parts⟩ := parts_of_ofFrame found
  intro row member
  obtain ⟨inRelations, -, inColumn, -, word⟩ := parts row member
  refine ⟨counts row member, Csv.names_of_frame table rfl named _ inRelations, ?_⟩
  intro cell own
  rw [entries] at inColumn
  split at inColumn
  · next cells called =>
      have names := Csv.names_of_frame table rfl called
      rw [Frame.cellsInRows_of_names names] at inColumn
      obtain ⟨other, within, same⟩ := List.mem_map.mp inColumn
      rw [own] at same
      cases same
      rcases names cell within with rfl | ⟨text, rfl⟩
      · exact Or.inl rfl
      · refine Or.inr ⟨text, rfl, ?_⟩
        rw [word, Frame.rowKind?_of_text (Entries.get?_eq_some_mem called) within]
  · rw [List.eq_of_mem_replicate inColumn] at own
    cases own

theorem attribute?_concludes {row : CatalogRow} (legible : row.Legible) :
    Concludes (fun column => ∀ found ∈ column, ∃ text : String, found.name = (text : Label))
      row.attribute? := by
  obtain ⟨cell, own, needed⟩ := legible.column
  rw [attribute?, own]
  rcases legible.names cell own with rfl | ⟨text, rfl, word⟩
  · exact .read fun found member => absurd member (Option.not_mem_none found)
  · rcases needed with missing | integer
    · cases missing
    · simp only [Cell.misses?, Cell.isMissing, word]
      split
      · next failed => exact integer.count_concludes.error failed
      · refine (Concludes.statistic (fun _ => Attribute.genuine_of_ofCount)
          fun _ => Attribute.name_of_ofCount).map ?_
        rintro column called _ ⟨⟩
        exact ⟨text, called⟩

theorem attributes_concludes {rows : List CatalogRow} (legible : ∀ row ∈ rows, row.Legible) :
    Concludes Catalog.TextNames (attributes rows) := by
  induction rows with
  | nil => exact .read nofun
  | cons row rest induction =>
      obtain ⟨here, later⟩ := List.forall_mem_cons.mp legible
      rw [attributes]
      split
      · next failed => exact (attribute?_concludes here).error failed
      · next made =>
          split
          · next failed => exact (induction later).error failed
          · next read =>
              refine .read fun column member => ?_
              rcases List.mem_append.mp member with first | after
              · exact (attribute?_concludes here).value made column (Option.mem_toList.mp first)
              · exact (induction later).value read column after

theorem relationOf_concludes {first : CatalogRow} {rest : List CatalogRow}
    (legible : ∀ row ∈ first :: rest, row.Legible) :
    Concludes Relation.Named (relationOf first rest) := by
  have size : Concludes (fun _ => True) first.tupleCount := by
    rw [tupleCount]
    split
    · next failed =>
        exact (legible first List.mem_cons_self).tuples.count_concludes.error failed
    · exact .statistic (fun _ => genuine_of_tupleCountOf) fun _ _ => True.intro
  rw [relationOf]
  split
  · next failed => exact size.error failed
  · split
    · next failed => exact (attributes_concludes legible).error failed
    · next read => exact .read ((attributes_concludes legible).value read)

theorem legible_about {first : CatalogRow} {rest : List CatalogRow}
    (legible : ∀ row ∈ first :: rest, row.Legible) :
    ∀ row ∈ first :: about first.relation rest, row.Legible := by
  obtain ⟨here, later⟩ := List.forall_mem_cons.mp legible
  exact List.forall_mem_cons.mpr ⟨here, fun row member => later row (List.mem_filter.mp member).1⟩

theorem relations_concludes (rows : List CatalogRow) (legible : ∀ row ∈ rows, row.Legible) :
    Concludes (fun entries => ∀ entry ∈ entries, entry.2.Named) (relations rows) := by
  induction rows using relations.induct with
  | case1 =>
      rw [relations]
      exact .read fun entry member => absurd member List.not_mem_nil
  | case2 first rest fault failed =>
      rw [relations, failed]
      exact (relationOf_concludes (legible_about legible)).error failed
  | case3 first rest relation read fault failed induction =>
      rw [relations, read, failed]
      refine (induction fun row member => ?_).error failed
      exact legible row (List.mem_cons_of_mem first (List.mem_filter.mp member).1)
  | case4 first rest relation read others later induction =>
      rw [relations, read, later]
      have own := (relationOf_concludes (legible_about legible)).value read
      have named := (induction fun row member =>
        legible row (List.mem_cons_of_mem first (List.mem_filter.mp member).1)).value later
      exact .read (List.forall_mem_cons.mpr ⟨own, named⟩)

end CatalogRow

namespace Catalog

theorem ofFrame_concludes {text : List Char} {frame : Frame} {rows : List CatalogRow}
    (table : Csv.frame (fun name => name == "relation" || name == "attribute") text = .ok frame)
    (found : CatalogRow.ofFrame .standard frame = .ok rows)
    (counts : ∀ row ∈ rows, row.HoldsCounts) :
    Concludes Catalog.Named (ofFrame .standard frame) := by
  have legible := CatalogRow.legible_of_frame table found counts
  have plain : ¬ (rows.any fun row => row.relation.isCompound) = true := by
    rw [List.any_eq_true]
    rintro ⟨row, member, compound⟩
    rw [(legible row member).relation.not_compound] at compound
    cases compound
  rw [ofFrame, found]
  simp only [ofRows, if_neg plain]
  refine (CatalogRow.relations_concludes _ fun row member => ?_).map
    fun entries named entry member => named entry (Entries.mem_of_mem_ofList member)
  exact legible row (List.mem_filter.mp member).1

/-- Loading a documented file gives a catalogue whose attributes are called by texts, or finds a bad
count. -/
theorem ofFile_of_documented {files : Files} {path : String} (documented : Documented files path) :
    Concludes Catalog.Named (ofFile .bySuffix files path) := by
  cases documented with
  | rows suffix stored table found counts =>
      simp only [ofFile, ofFileWithin, if_pos suffix, ofTableFile, CatalogColumns.standard,
        Files.table, Files.characters, stored, table]
      exact ofFrame_concludes table found counts
  | document suffix stored paired read shape =>
      have other : ¬ pathFormat path = ".csv" := by
        rw [suffix]
        decide
      simp only [ofFile, ofFileWithin, if_neg other, if_pos suffix, ofDocumentFile,
        Files.characters, stored]
      rcases Json.readWithin_limited (some Text.digitLimit) _ with same | told
      · rw [same, read]
        exact ofDocument_concludes shape
      · rw [told]
        exact .refused .number

end Catalog

end Selectivity
