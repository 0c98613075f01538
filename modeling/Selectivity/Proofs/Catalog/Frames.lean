import Selectivity.Proofs.Catalog.Rows
import Selectivity.Proofs.Table.Frames

/-!
# Catalogues and their tables

The table of a catalogue has a row for each attribute and one for each relation without attributes.
The catalogue that is made of the table is the same, if columns are called by texts and counts are
small enough for 64-bit numbers.
-/

namespace Selectivity

open Selectivity.Frame

namespace Listing

/-- The entry for the name of the attribute. -/
def nameEntry (listing : Listing) : Cell :=
  listing.column.elim .null fun column => .ofValue column.name.value

def valueEntry (listing : Listing) : Cell :=
  listing.column.elim .null fun column => .integer column.valueCount

/-- The columns of the table of a catalogue. -/
def columns : List (String × (Listing → Cell)) :=
  [("relation", fun listing => .text listing.relation),
    ("tuple_count", fun listing => .integer listing.tupleCount),
    ("attribute", nameEntry), ("value_count", valueEntry)]

/-- The table with a row for each listing. -/
def table (listings : List Listing) : Frame where
  columns := columns.map fun column => (column.1, settle (listings.map column.2))
  height := listings.length

end Listing

theorem Catalog.relationRows_eq (name : String) (relation : Relation) :
    relationRows name relation = (relation.listings name).map (rowOf Listing.columns) := by
  rw [relationRows, Relation.listings, Relation.slots]
  split
  · rfl
  · rw [List.map_map, List.map_map]
    rfl

theorem Catalog.rows_eq (catalog : Catalog Relation) :
    catalog.rows = catalog.listings.map (rowOf Listing.columns) := by
  rw [rows, listings, List.map_flatMap]
  exact List.flatMap_congr fun entry _ => relationRows_eq entry.1 entry.2

theorem Catalog.listings_ne_nil {catalog : Catalog Relation} (nonempty : catalog.entries ≠ []) :
    catalog.listings ≠ [] := by
  obtain ⟨entry, others, split⟩ := List.exists_cons_of_ne_nil nonempty
  rw [listings, split, List.flatMap_cons]
  intro empty
  exact entry.2.listings_ne_nil entry.1 (List.append_eq_nil_iff.mp empty).1

/-- A catalogue with a relation can be written as the table of what is listed in it. -/
theorem Catalog.ofRows?_rows {catalog : Catalog Relation} (nonempty : catalog.entries ≠ []) :
    ofRows? catalog.rows = some (Listing.table catalog.listings) := by
  have distinct : (Entries.names Listing.columns).Nodup := by
    change ["relation", "tuple_count", "attribute", "value_count"].Nodup
    decide
  rw [rows_eq]
  exact ofRows?_map_rowOf distinct (List.cons_ne_nil _ _) (listings_ne_nil nonempty)

theorem Catalog.frame_eq {catalog : Catalog Relation} (nonempty : catalog.entries ≠ []) :
    catalog.frame = Listing.table catalog.listings := by
  rw [frame, ofRows?_rows nonempty]
  rfl

namespace Listing

/-- The attribute is called by a text. -/
def Named (listing : Listing) : Prop :=
  ∀ column ∈ listing.column, ∃ text : String, column.name = text

variable {listing : Listing} {tuples name values : Cell}

/-- The row in which a table shows what is listed. -/
def shownRow (listing : Listing) (tuples name values : Cell) : CatalogRow :=
  ⟨.text listing.relation, .ok tuples, .ok name, none, .ok values⟩

theorem attribute?_shownRow (named : listing.Named) (exact : listing.Exact)
    (called : Shows listing.nameEntry name) (counted : Shows listing.valueEntry values) :
    (listing.shownRow tuples name values).attribute? = .ok listing.column := by
  obtain ⟨relation, tupleCount, _ | column⟩ := listing
  · -- no attribute is listed, and the name misses
    exact CatalogRow.attribute?_of_misses rfl (called.misses rfl)
  · obtain ⟨text, same⟩ := named column rfl
    obtain ⟨label, count, positive⟩ := column
    cases same
    have shown : name = .text text := called.text
    have number : values.count = .ok (count : Int) := counted.count (exact.valueCount _ rfl)
    refine CatalogRow.attribute?_of_text rfl (congrArg Except.ok shown) ?_ positive
    exact congrArg (Except.mapError CatalogFault.count) number

theorem tells_shownRow (named : listing.Named) (exact : listing.Exact)
    (sized : Shows (.integer listing.tupleCount) tuples) (called : Shows listing.nameEntry name)
    (counted : Shows listing.valueEntry values) :
    (listing.shownRow tuples name values).Tells listing where
  relation := rfl
  tuples := CatalogRow.tupleCount_of_count
    (congrArg (Except.mapError CatalogFault.count) (sized.count exact.tupleCount))
  column := attribute?_shownRow named exact called counted

end Listing

theorem CatalogRow.shows_entries {Item : Type} {entry : Item → Cell} {items : List Item}
    {frame : Frame} {look : List Cell → List Cell} {name : String}
    (looks : ∀ cells, List.Forall₂ Shows cells (look cells))
    (column : Entries.get? frame.columns name = some (settle (items.map entry))) :
    List.Forall₂ (fun item found => ∃ cell, found = .ok cell ∧ Shows (entry item) cell) items
      (entries frame look name) := by
  rw [entries, column]
  apply List.forall₂_map_right_iff.mpr
  have shown := shows_trans (shows_settle _) (looks (settle (items.map entry)))
  exact (List.forall₂_map_left_iff.mp shown).imp fun _ cell shows => ⟨cell, rfl, shows⟩

/-- The rows of a table in which all relations are called by texts are found one by one, and do not
hold words. -/
theorem CatalogRow.rows_of_columns {Item : Type} {items : List Item} {name : Item → String}
    {tells : Item → Entry × Entry × Entry → Prop} {frame : Frame} (nonempty : items ≠ [])
    (relations : Entries.get? frame.columns "relation" =
      some (items.map fun item => .text (name item)))
    (others : List.Forall₂ tells items ((entries frame id "tuple_count").zip
      ((entries frame frame.cellsInRows "attribute").zip
        (entries frame frame.cellsInRows "value_count")))) :
    ∃ rows, ofFrame .standard frame = .ok rows ∧
      List.Forall₂ (fun row item => row.relation = .text (name item) ∧ row.word = none ∧
        tells item (row.tuples, row.column, row.values)) rows items := by
  obtain ⟨first, more, rfl⟩ := List.exists_cons_of_ne_nil nonempty
  have plain : frame.rowKind? = none :=
    rowKind?_of_text (Entries.get?_eq_some_mem relations) List.mem_cons_self
  have called : List.Forall₂ (fun item cell => cell = Cell.text (name item)) (first :: more)
      ((first :: more).map fun item => Cell.text (name item)) :=
    List.forall₂_map_right_iff.mpr (List.forall₂_same.mpr fun _ _ => rfl)
  have shown := forall₂_pairs called others
  simp only [ofFrame, CatalogColumns.standard, relations, plain]
  refine ⟨_, rfl, ?_⟩
  rw [← List.map_uncurry_zip_eq_zipWith]
  apply List.forall₂_map_left_iff.mpr
  exact (shown.imp fun item pair shows => ⟨shows.1, rfl, shows.2⟩).flip

namespace Listing

theorem rows_of_table {listings : List Listing} (nonempty : listings ≠ [])
    (named : ∀ listing ∈ listings, listing.Named) (exact : ∀ listing ∈ listings, listing.Exact) :
    ∃ rows, CatalogRow.ofFrame .standard (table listings) = .ok rows ∧
      List.Forall₂ CatalogRow.Tells rows listings := by
  have relations : Entries.get? (table listings).columns "relation" =
      some (listings.map fun listing => Cell.text listing.relation) :=
    congrArg some (settle_texts relation listings)
  obtain ⟨first, more, rfl⟩ := List.exists_cons_of_ne_nil nonempty
  have plain : (table (first :: more)).rowKind? = none :=
    rowKind?_of_text (Entries.get?_eq_some_mem relations) List.mem_cons_self
  generalize first :: more = listings at *
  have tuples : List.Forall₂
      (fun listing found => ∃ cell, found = .ok cell ∧ Shows (.integer listing.tupleCount) cell)
      listings (CatalogRow.entries (table listings) id "tuple_count") :=
    CatalogRow.shows_entries shows_self rfl
  have names : List.Forall₂
      (fun listing found => ∃ cell, found = .ok cell ∧ Shows (nameEntry listing) cell)
      listings (CatalogRow.entries (table listings) (table listings).cellsInRows "attribute") :=
    CatalogRow.shows_entries (shows_cellsInRows plain) rfl
  have values : List.Forall₂
      (fun listing found => ∃ cell, found = .ok cell ∧ Shows (valueEntry listing) cell)
      listings (CatalogRow.entries (table listings) (table listings).cellsInRows "value_count") :=
    CatalogRow.shows_entries (shows_cellsInRows plain) rfl
  obtain ⟨rows, found, shown⟩ := CatalogRow.rows_of_columns nonempty relations
    (forall₂_pairs tuples (forall₂_pairs names values))
  refine ⟨rows, found, ?_⟩
  have small : ∀ listing ∈ listings, listing.Named ∧ listing.Exact :=
    fun listing member => ⟨named listing member, exact listing member⟩
  refine (((List.forall₂_and_left _ _).mpr ⟨small, shown.flip⟩).imp ?_).flip
  rintro listing ⟨_, _, _, _, _⟩ ⟨⟨plain, small⟩, rfl, rfl, ⟨_, rfl, sized⟩, ⟨_, rfl, naming⟩, _,
    rfl, counting⟩
  exact tells_shownRow plain small sized naming counting

end Listing

namespace Catalog

variable {catalog : Catalog Relation}

theorem Named.listings (named : catalog.Named) :
    ∀ listing ∈ catalog.listings, listing.Named := by
  intro listing member column here
  obtain ⟨entry, stored, within⟩ := List.mem_flatMap.mp member
  obtain ⟨slot, inside, rfl⟩ := List.mem_map.mp within
  exact named entry stored column (Relation.mem_of_mem_slots (here ▸ inside))

/-- The catalogue that is made of the table of a catalogue is the same. -/
theorem ofFrame_frame (nonempty : catalog.entries ≠ []) (named : catalog.Named)
    (exact : catalog.Exact) : ofFrame .standard catalog.frame = .ok catalog := by
  obtain ⟨rows, found, told⟩ := Listing.rows_of_table (listings_ne_nil nonempty) named.listings
    fun _ => exact.of_mem_listings
  rw [ofFrame, frame_eq nonempty, found]
  dsimp only
  rw [ofRows_of_tells told, grouped_listings, ofList_entries]

end Catalog

end Selectivity
