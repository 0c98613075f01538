import Selectivity.Proofs.Catalog.Documents
import Selectivity.Proofs.Catalog.Grouping
import Selectivity.Proofs.Table.Columns
import Selectivity.Proofs.Text.Words

/-!
# Catalogues and their rows

A catalogue can be written as comma-separated rows, with one row for each attribute. What is read
from them has the relations and the attributes of the catalogue in order, without those that are
called by a word for a missing entry.
-/

namespace Selectivity

open Csv

namespace Listing

/-- The name of the attribute, which is empty if there is none. -/
def columnName (listing : Listing) : String :=
  listing.column.elim "" fun column => column.name.display

def valueCount (listing : Listing) : Option Nat :=
  listing.column.map Attribute.valueCount

/-- The fields of a row. -/
def record (listing : Listing) : Record :=
  [listing.relation.toList, countField listing.tupleCount, listing.columnName.toList,
    countField listing.valueCount]

/-- The relation is called by a word, and so is the attribute. -/
structure InWords (listing : Listing) : Prop where
  relation : Text.isWord listing.relation.toList = true
  column : ∀ column ∈ listing.column,
    ∃ text : String, column.name = text ∧ Text.isWord text.toList = true

/-- The counts are 64-bit numbers, and all smaller ones are too. -/
structure Exact (listing : Listing) : Prop where
  tupleCount : listing.tupleCount ≤ 2 ^ Binary64.precision
  valueCount : ∀ column ∈ listing.column, column.valueCount ≤ 2 ^ Binary64.precision

/-- The attribute, unless it is called by a word for a missing entry. -/
def legibleColumn (listing : Listing) : Option Attribute :=
  listing.column.filter fun column => !isMissingWord column.name.display

/-- The row with no other attribute than one that can be told from a missing entry. -/
def legible (listing : Listing) : Listing :=
  { listing with column := listing.legibleColumn }

theorem Exact.valueCount_le {listing : Listing} (exact : listing.Exact) {number : Nat}
    (known : listing.valueCount = some number) : number ≤ 2 ^ Binary64.precision := by
  obtain ⟨column, there, rfl⟩ := Option.map_eq_some_iff.mp known
  exact exact.valueCount column there

end Listing

namespace Relation

/-- The relation without the attributes that are called by a word for a missing entry. -/
def legible (relation : Relation) : Relation :=
  { relation with
    attributes := relation.attributes.filter fun column => !isMissingWord column.name.display }

end Relation

namespace Catalog

/-- The first record of a catalogue. -/
def header : Record :=
  ["relation".toList, "tuple_count".toList, "attribute".toList, "value_count".toList]

/-- The records of a catalogue: the names of the columns, then relation by relation one row for
each attribute. -/
def records (catalog : Catalog Relation) : List Record :=
  header :: catalog.listings.map Listing.record

/-- All names are words. -/
def InWords (catalog : Catalog Relation) : Prop :=
  ∀ entry ∈ catalog.entries, Text.isWord entry.1.toList = true ∧
    ∀ column ∈ entry.2.attributes,
      ∃ text : String, column.name = text ∧ Text.isWord text.toList = true

/-- All counts are at most the power 53 of two. -/
def Exact (catalog : Catalog Relation) : Prop :=
  ∀ entry ∈ catalog.entries, entry.2.tupleCount ≤ 2 ^ Binary64.precision ∧
    ∀ column ∈ entry.2.attributes, column.valueCount ≤ 2 ^ Binary64.precision

/-- The catalogue without the relations and the attributes that are called by a word for a missing
entry. -/
def legible (catalog : Catalog Relation) : Catalog Relation where
  entries := (catalog.entries.filter fun entry => !isMissingWord entry.1).map
    fun entry => (entry.1, entry.2.legible)
  distinct := by
    rw [Entries.names, List.map_map]
    exact catalog.distinct.sublist (List.filter_sublist.map Prod.fst)

/-- No name is a word for a missing entry. -/
def AllLegible (catalog : Catalog Relation) : Prop :=
  ∀ entry ∈ catalog.entries, isMissingWord entry.1 = false ∧
    ∀ column ∈ entry.2.attributes, isMissingWord column.name.display = false

end Catalog

theorem isPlain_of_kind {kind : Char → Bool}
    (other : [',', '"', '\n', '\r'].any kind = false) {character : Char}
    (own : kind character = true) : isPlain character = true := by
  have apart : ∀ special ∈ [',', '"', '\n', '\r'], (character == special) = false := by
    refine fun special member => beq_eq_false_iff_ne.mpr fun same => ?_
    exact List.any_eq_false.mp other special member (same ▸ own)
  rw [isPlain, apart _ (by decide), apart _ (by decide), apart _ (by decide),
    apart _ (by decide)]
  rfl

theorem isPlain_of_isWord {text : List Char} (word : Text.isWord text = true) :
    ∀ character ∈ text, isPlain character = true := by
  have special : [',', '"', '\n', '\r'].any Text.isWordChar = false := by decide
  exact fun character member =>
    isPlain_of_kind special ((Text.isWord_iff.mp word).2 character member)

theorem isPlain_of_mem_countField (count : Option Nat) :
    ∀ character ∈ countField count, isPlain character = true := by
  have special : [',', '"', '\n', '\r'].any Text.isDigit = false := by decide
  cases count with
  | none => exact nofun
  | some number =>
      exact fun character member =>
        isPlain_of_kind special (Text.isDigit_of_mem_digits character member)

namespace Listing

theorem isPlain_of_mem_columnName {listing : Listing} (words : listing.InWords) :
    ∀ character ∈ listing.columnName.toList, isPlain character = true := by
  obtain ⟨name, tupleCount, _ | column⟩ := listing
  · exact nofun
  · obtain ⟨text, called, word⟩ := words.column column rfl
    change ∀ character ∈ column.name.display.toList, _
    rw [called]
    exact isPlain_of_isWord word

theorem InWords.plain {listing : Listing} (words : listing.InWords) : listing.record.Plain := by
  refine ⟨?_, ?_⟩
  · refine List.forall_mem_cons.mpr ⟨isPlain_of_isWord words.relation, ?_⟩
    refine List.forall_mem_cons.mpr ⟨isPlain_of_mem_countField _, ?_⟩
    exact List.forall_mem_cons.mpr ⟨isPlain_of_mem_columnName words,
      List.forall_mem_singleton.mpr (isPlain_of_mem_countField _)⟩
  · obtain ⟨nonempty, word⟩ := Text.isWord_iff.mp words.relation
    obtain ⟨first, field, split⟩ := List.exists_cons_of_ne_nil nonempty
    refine ⟨first, field, _, congrArg (List.cons · _) split, ?_⟩
    have blanks : [' ', '\t'].any Text.isWordChar = false := by decide
    have own := word first (split ▸ List.mem_cons_self)
    refine Bool.or_eq_false_iff.mpr ⟨?_, ?_⟩
    all_goals
      refine beq_eq_false_iff_ne.mpr ?_
      rintro rfl
      exact List.any_eq_false.mp blanks _ (by decide) own

end Listing

/-- The table of some rows. -/
def listingFrame (listings : List Listing) : Frame where
  columns :=
    [("relation", listings.map fun listing => nameCell listing.relation),
      ("tuple_count", listings.map fun listing => .integer listing.tupleCount),
      ("attribute", listings.map fun listing => nameCell listing.columnName),
      ("value_count", listings.map fun listing =>
        countCell (listings.any fun listing => listing.valueCount.isNone) listing.valueCount)]
  height := listings.length

theorem frame_of_listings {listings : List Listing} {text : List Char}
    (words : ∀ listing ∈ listings, listing.InWords) (exact : ∀ listing ∈ listings, listing.Exact)
    (prints : Prints (Catalog.header :: listings.map Listing.record) text) :
    frame (fun name => name == "relation" || name == "attribute") text =
      .ok (listingFrame listings) := by
  have plain : ∀ record ∈ Catalog.header :: listings.map Listing.record, record.Plain := by
    have heading : Catalog.header.all (fun field => field.all isPlain) = true := by decide
    refine List.forall_mem_cons.mpr ⟨⟨fun field member => List.all_eq_true.mp
      (List.all_eq_true.mp heading field member), _, _, _, rfl, by decide⟩, ?_⟩
    exact List.forall_mem_map.mpr fun listing member => (words listing member).plain
  have even : ∀ row ∈ listings.map Listing.record, row.length = Catalog.header.length :=
    List.forall_mem_map.mpr fun listing _ => rfl
  have noMark : text.head? ≠ some '\uFEFF' := by
    obtain ⟨rest, rfl⟩ := prints.exists_append
    exact fun mark => absurd (Option.some.inj mark) (by decide)
  have names : (Catalog.header.mapIdx columnName).zip (columnNames Catalog.header) =
      [("relation", "relation"), ("tuple_count", "tuple_count"), ("attribute", "attribute"),
        ("value_count", "value_count")] := rfl
  have sizes := typedColumn_counts (fun listing : Listing => some listing.tupleCount)
    fun listing (member : listing ∈ listings) number same =>
      Option.some.inj same ▸ (exact listing member).tupleCount
  have values := typedColumn_counts Listing.valueCount
    fun listing (member : listing ∈ listings) number same =>
      (exact listing member).valueCount_le same
  have full : (listings.any fun listing => (some listing.tupleCount).isNone) = false :=
    List.any_eq_false.mpr fun _ _ => nofun
  rw [full] at sizes
  have table : columns (fun name => name == "relation" || name == "attribute") Catalog.header 0
      (listings.map Listing.record) = (listingFrame listings).columns := by
    rw [columns, names]
    simp only [List.mapIdx_cons, List.mapIdx_nil, List.map_map]
    change [("relation", textColumn (listings.map fun listing =>
        fieldText listing.relation.toList)),
      ("tuple_count", typedColumn (listings.map fun listing =>
        fieldText (countField listing.tupleCount))),
      ("attribute", textColumn (listings.map fun listing =>
        fieldText listing.columnName.toList)),
      ("value_count", typedColumn (listings.map fun listing =>
        fieldText (countField listing.valueCount)))] = _
    rw [textColumn_names, textColumn_names, sizes, values]
    rfl
  rw [frame_of_prints _ prints plain even noMark, table, List.length_map]
  rfl

/-- The row of a table in which some relation is called by a text. -/
def Listing.row (gaps : Bool) (listing : Listing) : CatalogRow where
  relation := nameCell listing.relation
  tuples := .ok (.integer listing.tupleCount)
  column := .ok (nameCell listing.columnName)
  word := none
  values := .ok (countCell gaps listing.valueCount)

/-- If some relation is called by a text, the rows are found as they were listed. -/
theorem ofFrame_listingFrame {listings : List Listing}
    (named : ∃ listing ∈ listings, isMissingWord listing.relation = false) :
    CatalogRow.ofFrame .standard (listingFrame listings) =
      .ok (listings.map (Listing.row (listings.any fun listing => listing.valueCount.isNone))) := by
  have loose : (listingFrame listings).rowKind? = none := by
    obtain ⟨listing, member, known⟩ := named
    have text : .text listing.relation ∈ listings.map fun listing => nameCell listing.relation := by
      refine List.mem_map.mpr ⟨listing, member, ?_⟩
      rw [nameCell, known]
      rfl
    exact Frame.rowKind?_of_text List.mem_cons_self text
  have columns : (listingFrame listings).cellsInRows (listings.map fun listing =>
      nameCell listing.columnName) = listings.map fun listing => nameCell listing.columnName :=
    Frame.cellsInRows_of_names (List.forall_mem_map.mpr fun listing _ => isName_nameCell _)
  have values : (listingFrame listings).cellsInRows (listings.map fun listing =>
      countCell (listings.any fun listing => listing.valueCount.isNone) listing.valueCount) =
      listings.map fun listing =>
        countCell (listings.any fun listing => listing.valueCount.isNone) listing.valueCount := by
    refine Frame.cellsInRows_eq_self (fun real => ?_) ?_
    · rw [loose] at real
      cases real
    · exact List.forall_mem_map.mpr fun listing _ => fillNull_countCell _ _
  have relationColumn : Entries.get? (listingFrame listings).columns "relation" =
      some (listings.map fun listing => nameCell listing.relation) := rfl
  have tupleColumn : CatalogRow.entries (listingFrame listings) id "tuple_count" =
      listings.map fun listing => .ok (.integer listing.tupleCount) := List.map_map
  have columnColumn : CatalogRow.entries (listingFrame listings)
      (listingFrame listings).cellsInRows "attribute" =
      listings.map fun listing => .ok (nameCell listing.columnName) :=
    (congrArg (List.map Except.ok) columns).trans List.map_map
  have valueColumn : CatalogRow.entries (listingFrame listings)
      (listingFrame listings).cellsInRows "value_count" =
      listings.map fun listing => .ok (countCell
        (listings.any fun listing => listing.valueCount.isNone) listing.valueCount) :=
    (congrArg (List.map Except.ok) values).trans List.map_map
  simp only [CatalogRow.ofFrame, CatalogColumns.standard, relationColumn, tupleColumn,
    columnColumn, valueColumn, loose, List.zip_map', List.zipWith_map, List.zipWith_self]
  rfl

namespace Listing

/-- A row gives its attribute, unless the name is a word for a missing entry. -/
theorem attribute?_row (gaps : Bool) {listing : Listing} (words : listing.InWords)
    (exact : listing.Exact) : (listing.row gaps).attribute? = .ok listing.legibleColumn := by
  obtain ⟨name, tupleCount, _ | column⟩ := listing
  · rfl
  · obtain ⟨text, called, -⟩ := words.column column rfl
    obtain ⟨label, count, positive⟩ := column
    cases called
    have looked : (row gaps ⟨name, tupleCount, some ⟨text, count, positive⟩⟩).column =
        .ok (nameCell text) := rfl
    have counted : (row gaps ⟨name, tupleCount, some ⟨text, count, positive⟩⟩).values.count =
        .ok (count : Int) :=
      congrArg (Except.mapError CatalogFault.count) (count_countCell gaps (exact.valueCount _ rfl))
    have legible : legibleColumn ⟨name, tupleCount, some ⟨text, count, positive⟩⟩ =
        if !isMissingWord text then some ⟨text, count, positive⟩ else none := rfl
    rw [legible]
    cases missing : isMissingWord text with
    | true =>
        rw [nameCell, missing] at looked
        exact CatalogRow.attribute?_of_misses looked rfl
    | false =>
        rw [nameCell, missing] at looked
        exact CatalogRow.attribute?_of_text rfl looked counted positive

theorem tells_row (gaps : Bool) {listing : Listing}
    (known : isMissingWord listing.relation = false) (words : listing.InWords)
    (exact : listing.Exact) : (listing.row gaps).Tells listing.legible where
  relation := by
    rw [row, nameCell, known]
    rfl
  tuples := CatalogRow.tupleCount_of_count rfl
  column := attribute?_row gaps words exact

end Listing

namespace Relation

theorem legibleColumns_listings (relation : Relation) (name : String) :
    (relation.listings name).filterMap Listing.legibleColumn = relation.legible.attributes := by
  obtain ⟨tupleCount, attributes⟩ := relation
  rw [listings, slots, List.filterMap_map]
  split
  · next empty =>
      rw [List.isEmpty_iff] at empty
      cases empty
      rfl
  · rw [List.filterMap_map]
    exact congrFun List.filterMap_eq_filter attributes

theorem described_legible (relation : Relation) (name : String) :
    Listing.described ((relation.listings name).map Listing.legible) = relation.legible := by
  have size := congrArg Relation.tupleCount (relation.described_listings name)
  rw [Listing.described, List.head?_map, Option.map_map, List.filterMap_map]
  exact congrArg₂ Relation.mk size (relation.legibleColumns_listings name)

end Relation

namespace CatalogRow

/-- The rows of several relations under distinct names are told apart by the names. -/
theorem relations_listings (gaps : Bool) {entries : List (String × Relation)}
    (distinct : (Entries.names entries).Nodup)
    (known : ∀ entry ∈ entries, isMissingWord entry.1 = false)
    (words : ∀ entry ∈ entries, ∀ listing ∈ entry.2.listings entry.1, listing.InWords)
    (exact : ∀ entry ∈ entries, ∀ listing ∈ entry.2.listings entry.1, listing.Exact) :
    relations ((entries.flatMap fun entry => entry.2.listings entry.1).map (Listing.row gaps)) =
      .ok (entries.map fun entry => (entry.1, entry.2.legible)) := by
  have told : List.Forall₂ Tells
      ((entries.flatMap fun entry => entry.2.listings entry.1).map (Listing.row gaps))
      ((entries.flatMap fun entry => entry.2.listings entry.1).map Listing.legible) := by
    refine List.forall₂_map_left_iff.mpr (List.forall₂_map_right_iff.mpr ?_)
    refine List.forall₂_same.mpr fun listing member => ?_
    obtain ⟨entry, stored, within⟩ := List.mem_flatMap.mp member
    have called := Relation.relation_of_mem_listings within
    exact Listing.tells_row gaps (called ▸ known entry stored) (words entry stored listing within)
      (exact entry stored listing within)
  have nonempty : ∀ entry ∈ entries,
      (entry.2.listings entry.1).map Listing.legible ≠ [] := fun entry _ empty =>
    entry.2.listings_ne_nil entry.1 (List.map_eq_nil_iff.mp empty)
  have own : ∀ entry ∈ entries, ∀ listing ∈ (entry.2.listings entry.1).map Listing.legible,
      listing.relation = entry.1 := by
    refine fun entry _ => List.forall_mem_map.mpr fun listing member => ?_
    have called : listing.relation = entry.1 := Relation.relation_of_mem_listings member
    exact called
  rw [relations_of_tells told, List.map_flatMap, Listing.grouped_flatMap distinct nonempty own]
  refine congrArg Except.ok (List.map_congr_left fun entry _ => ?_)
  exact congrArg (Prod.mk entry.1) (entry.2.described_legible entry.1)

theorem isMissing_nameCell (name : String) : (nameCell name).isMissing = isMissingWord name := by
  rw [nameCell]
  cases isMissingWord name <;> rfl

theorem ofFrame_listings (listings : List Listing) :
    ∃ rows gaps, ofFrame .standard (listingFrame listings) = .ok rows ∧
      (rows.any fun row => row.relation.isCompound) = false ∧
      (rows.filter fun row => !row.relation.isMissing) =
        (listings.filter fun listing => !isMissingWord listing.relation).map
          (Listing.row gaps) := by
  by_cases named : ∃ listing ∈ listings, isMissingWord listing.relation = false
  · refine ⟨_, listings.any fun listing => listing.valueCount.isNone,
      ofFrame_listingFrame named, ?_, ?_⟩
    · rw [List.any_map]
      refine List.any_eq_false.mpr fun listing _ => ?_
      exact Bool.eq_false_iff.mp (isName_nameCell listing.relation).not_compound
    · rw [List.filter_map]
      refine congrArg (List.map _) (List.filter_congr fun listing _ => ?_)
      exact congrArg Bool.not (isMissing_nameCell listing.relation)
  · -- the columns may hold words here, but no row names a relation
    have none : ∀ listing ∈ listings, isMissingWord listing.relation = true := by
      intro listing member
      cases known : isMissingWord listing.relation with
      | true => rfl
      | false => exact absurd ⟨listing, member, known⟩ named
    have blank : ∀ cell ∈ listings.map fun listing => nameCell listing.relation,
        cell = .missing :=
      List.forall_mem_map.mpr fun listing member => if_pos (none listing member)
    obtain ⟨rows, found, missing⟩ : ∃ rows, ofFrame .standard (listingFrame listings) = .ok rows ∧
        ∀ row ∈ rows, row.relation = .missing := by
      refine ⟨_, rfl, fun row member => ?_⟩
      obtain ⟨index, within, rfl⟩ := List.mem_iff_getElem.mp member
      rw [List.getElem_zipWith]
      exact blank _ (List.getElem_mem _)
    have noListing : (listings.filter fun listing => !isMissingWord listing.relation) = [] :=
      List.filter_eq_nil_iff.mpr fun listing member known =>
        absurd (none listing member) (Bool.eq_false_iff.mp (Bool.not_eq_true' _ |>.mp known))
    refine ⟨rows, false, found, List.any_eq_false.mpr fun row member => ?_, ?_⟩
    · rw [missing row member]
      exact nofun
    · rw [noListing]
      refine List.filter_eq_nil_iff.mpr fun row member => ?_
      rw [missing row member]
      exact nofun

end CatalogRow

namespace Relation

theorem legible_eq_self_iff {relation : Relation} : relation.legible = relation ↔
    ∀ column ∈ relation.attributes, isMissingWord column.name.display = false := by
  have parts : relation.legible = relation ↔ (relation.attributes.filter fun column =>
      !isMissingWord column.name.display) = relation.attributes := by
    obtain ⟨tupleCount, attributes⟩ := relation
    rw [legible, mk.injEq]
    exact and_iff_right rfl
  rw [parts, List.filter_eq_self]
  exact forall₂_congr fun _ _ => iff_of_eq (Bool.not_eq_true' _)

theorem filter_listings (entries : List (String × Relation)) :
    ((entries.flatMap fun entry => entry.2.listings entry.1).filter fun listing =>
        !isMissingWord listing.relation) =
      (entries.filter fun entry => !isMissingWord entry.1).flatMap fun entry =>
        entry.2.listings entry.1 := by
  induction entries with
  | nil => rfl
  | cons entry rest induction =>
      rw [List.flatMap_cons, List.filter_append, induction, List.filter_cons]
      split
      · next known =>
          rw [List.flatMap_cons, List.filter_eq_self.mpr fun listing member => ?_]
          rw [relation_of_mem_listings member]
          exact known
      · next missing =>
          rw [List.filter_eq_nil_iff.mpr fun listing member => ?_, List.nil_append]
          rw [relation_of_mem_listings member]
          exact missing

end Relation

namespace Catalog

variable {catalog : Catalog Relation}

theorem InWords.listings (words : catalog.InWords) :
    ∀ entry ∈ catalog.entries, ∀ listing ∈ entry.2.listings entry.1, listing.InWords := by
  intro entry member listing within
  obtain ⟨slot, inside, rfl⟩ := List.mem_map.mp within
  refine ⟨(words entry member).1, fun column here => ?_⟩
  exact (words entry member).2 column (Relation.mem_of_mem_slots (here ▸ inside))

theorem Exact.listings (exact : catalog.Exact) :
    ∀ entry ∈ catalog.entries, ∀ listing ∈ entry.2.listings entry.1, listing.Exact := by
  intro entry member listing within
  obtain ⟨slot, inside, rfl⟩ := List.mem_map.mp within
  refine ⟨(exact entry member).1, fun column here => ?_⟩
  exact (exact entry member).2 column (Relation.mem_of_mem_slots (here ▸ inside))

theorem Exact.of_mem_listings (exact : catalog.Exact) {listing : Listing}
    (member : listing ∈ catalog.listings) : listing.Exact := by
  obtain ⟨entry, stored, within⟩ := List.mem_flatMap.mp member
  exact exact.listings entry stored listing within

/-- The rows of a catalogue are read as what can be told from missing entries in it. -/
theorem ofFrame_listings (words : catalog.InWords) (exact : catalog.Exact) :
    ofFrame .standard (listingFrame catalog.listings) = .ok catalog.legible := by
  obtain ⟨rows, gaps, found, plain, named⟩ := CatalogRow.ofFrame_listings catalog.listings
  have distinct : (Entries.names
      (catalog.entries.filter fun entry => !isMissingWord entry.1)).Nodup :=
    catalog.distinct.sublist (List.filter_sublist.map Prod.fst)
  have relations := CatalogRow.relations_listings gaps distinct
    (fun entry member => (Bool.not_eq_true' _).mp (List.mem_filter.mp member).2)
    (fun entry member => words.listings entry (List.mem_filter.mp member).1)
    (fun entry member => exact.listings entry (List.mem_filter.mp member).1)
  rw [listings, Relation.filter_listings] at named
  rw [ofFrame, found]
  dsimp only
  rw [ofRows, plain, if_neg Bool.false_ne_true, named, relations]
  have kept : ofList catalog.legible.entries = catalog.legible := ofList_entries _
  exact congrArg Except.ok kept

/-- A file of the printed rows of a catalogue is loaded as what can be told from missing entries in
the catalogue. -/
theorem ofFile_of_prints (words : catalog.InWords) (exact : catalog.Exact) {files : Files}
    {path content : String} (suffix : pathFormat path = ".csv")
    (stored : files (String.ofList (Text.normalPath path.toList)) = .ok content)
    (prints : Prints catalog.records content.toList) :
    ofFile .bySuffix files path = .ok catalog.legible := by
  have table : Csv.frame (fun name => name == "relation" || name == "attribute") content.toList =
      .ok (listingFrame catalog.listings) := by
    refine frame_of_listings (fun listing member => ?_) (fun _ => exact.of_mem_listings) prints
    obtain ⟨entry, stored, within⟩ := List.mem_flatMap.mp member
    exact words.listings entry stored listing within
  simp only [ofFile, ofFileWithin, if_pos suffix, ofTableFile, CatalogColumns.standard,
    Files.table, Files.characters, stored, table]
  exact ofFrame_listings words exact

/-- Everything in a catalogue can be told from missing entries exactly if no name is a word for
one. -/
theorem legible_eq_self_iff : catalog.legible = catalog ↔ catalog.AllLegible := by
  have parts : catalog.legible = catalog ↔
      (catalog.entries.filter fun entry => !isMissingWord entry.1).map
        (fun entry => (entry.1, entry.2.legible)) = catalog.entries := by
    obtain ⟨entries, distinct⟩ := catalog
    rw [legible, mk.injEq]
  rw [parts]
  constructor
  · intro same
    have all : (catalog.entries.filter fun entry => !isMissingWord entry.1) = catalog.entries := by
      refine List.filter_eq_self.mpr (List.length_filter_eq_length_iff.mp ?_)
      have lengths := congrArg List.length same
      rw [List.length_map] at lengths
      exact lengths
    rw [all] at same
    have each := List.map_inj_left.mp (same.trans (List.map_id _).symm)
    intro entry member
    refine ⟨(Bool.not_eq_true' _).mp (List.filter_eq_self.mp all entry member), ?_⟩
    exact Relation.legible_eq_self_iff.mp (congrArg Prod.snd (each entry member))
  · intro known
    rw [List.filter_eq_self.mpr fun entry member =>
      (Bool.not_eq_true' _).mpr (known entry member).1]
    refine (List.map_congr_left fun entry member => ?_).trans (List.map_id _)
    exact Prod.ext rfl (Relation.legible_eq_self_iff.mpr (known entry member).2)

end Catalog

end Selectivity
