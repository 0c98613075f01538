import Selectivity.Catalog.File
import Selectivity.Proofs.Text.Numerals

/-!
# Refused counts in catalogues

Whatever a catalogue is read from, a statistic is refused only for a count that no attribute or
relation may have, and the fault tells the count if that can be written.
-/

namespace Selectivity

/-- The count that is refused is in fact out of bounds, and it is told exactly if it can be
written. -/
def StatisticFault.Genuine : StatisticFault → Prop
  | .negativeTupleCount count => count < 0 ∧ Text.exceedsDigits count.natAbs = false
  | .valueCountBelowOne _ count => count < 1 ∧ Text.exceedsDigits count.natAbs = false
  | .unwritable count => count < 0 ∧ Text.exceedsDigits count.natAbs = true
  | .notWhole => False

theorem StatisticFault.ofRefusal_of_short {count : Int} {told : StatisticFault}
    (short : Text.exceedsDigits count.natAbs = false) : ofRefusal count told = told :=
  if_neg (ne_true_of_eq_false short)

theorem StatisticFault.genuine_ofRefusal {count : Int} {told : StatisticFault} (low : count < 1)
    (genuine : Text.exceedsDigits count.natAbs = false → told.Genuine) :
    (ofRefusal count told).Genuine := by
  rw [ofRefusal]
  split
  · next tooLong =>
      refine ⟨?_, tooLong⟩
      have nonzero := Text.pos_of_exceedsDigits tooLong
      omega
  · next short => exact genuine (eq_false_of_ne_true short)

/-- A value count is refused if it is below one, and otherwise kept as it is. -/
theorem Attribute.ofCount_cases (name : Label) (count : Int) :
    count < 1 ∧ ofCount name count = .error (.ofRefusal count (.valueCountBelowOne name count)) ∨
      1 ≤ count ∧ ∃ column, ofCount name count = .ok column ∧ column.name = name ∧
        (column.valueCount : Int) = count := by
  by_cases least : 1 ≤ count
  · exact Or.inr ⟨least, ⟨name, count.toNat, by omega⟩, dif_pos least, rfl,
      Int.toNat_of_nonneg (by omega)⟩
  · exact Or.inl ⟨Int.not_le.mp least, dif_neg least⟩

theorem tupleCountOf_cases (count : Int) :
    count < 0 ∧ tupleCountOf count = .error (.ofRefusal count (.negativeTupleCount count)) ∨
      0 ≤ count ∧ ∃ kept : Nat, tupleCountOf count = .ok kept ∧ (kept : Int) = count := by
  by_cases least : 0 ≤ count
  · exact Or.inr ⟨least, count.toNat, if_pos least, Int.toNat_of_nonneg least⟩
  · exact Or.inl ⟨Int.not_le.mp least, if_neg least⟩

theorem Attribute.genuine_of_ofCount {name : Label} {count : Int} {refused : StatisticFault}
    (failed : ofCount name count = .error refused) : refused.Genuine := by
  rcases ofCount_cases name count with ⟨tooSmall, told⟩ | ⟨-, column, told, -⟩
  · rw [told] at failed
    cases failed
    exact StatisticFault.genuine_ofRefusal tooSmall fun short => ⟨tooSmall, short⟩
  · rw [told] at failed
    cases failed

theorem genuine_of_tupleCountOf {count : Int} {refused : StatisticFault}
    (failed : tupleCountOf count = .error refused) : refused.Genuine := by
  rcases tupleCountOf_cases count with ⟨negative, told⟩ | ⟨-, kept, told, -⟩
  · rw [told] at failed
    cases failed
    exact StatisticFault.genuine_ofRefusal (by omega) fun short => ⟨negative, short⟩
  · rw [told] at failed
    cases failed

/-- If a reading refuses a whole number as a statistic, the count is out of bounds. -/
def Honest {Read : Type} (reading : Except CatalogFault Read) : Prop :=
  ∀ refused, reading = .error (.statistic refused) → refused ≠ .notWhole → refused.Genuine

namespace Honest

variable {Read Other : Type}

theorem ok (value : Read) : Honest (.ok value) :=
  nofun

theorem notWhole : Honest (.error (.statistic .notWhole) : Except CatalogFault Read) := by
  intro refused same whole
  cases same
  exact absurd rfl whole

theorem of_ne {fault : CatalogFault} (other : ∀ refused, fault ≠ .statistic refused) :
    Honest (.error fault : Except CatalogFault Read) :=
  fun refused same => absurd (Except.error.inj same) (other refused)

theorem passed {reading : Except CatalogFault Read} {fault : CatalogFault}
    (honest : Honest reading) (failed : reading = .error fault) :
    Honest (.error fault : Except CatalogFault Other) := by
  intro refused same
  cases same
  exact honest refused failed

theorem map {reading : Except CatalogFault Read} (image : Read → Other)
    (honest : Honest reading) : Honest (reading.map image) := by
  cases reading with
  | error fault => exact honest.passed rfl
  | ok value => exact ok (image value)

theorem statistic {checked : Except StatisticFault Read}
    (genuine : ∀ refused, checked = .error refused → refused.Genuine) :
    Honest (checked.mapError .statistic) := by
  cases checked with
  | error fault =>
      intro refused same _
      cases same
      exact genuine fault rfl
  | ok value => exact ok value

theorem mapError {Fault : Type} {reading : Except Fault Read} {image : Fault → CatalogFault}
    (other : ∀ fault refused, image fault ≠ .statistic refused) :
    Honest (reading.mapError image) := by
  cases reading with
  | error fault => exact of_ne (other fault)
  | ok value => exact ok value

end Honest

theorem Json.count_honest (document : Json) : Honest document.count := by
  unfold count
  split
  · exact .ok _
  · exact .notWhole
  · exact .notWhole
  · exact .of_ne nofun

theorem Json.requiredMember_honest (document : Json) (name : String) :
    Honest (document.requiredMember name) := by
  unfold requiredMember
  split
  · split
    · exact .ok _
    · exact .of_ne nofun
  · exact .of_ne nofun

theorem Attribute.ofDocument_honest (document : Json) : Honest (ofDocument document) := by
  unfold ofDocument
  split
  · next failed => exact (document.requiredMember_honest "name").passed failed
  · split
    · next failed => exact (document.requiredMember_honest "value_count").passed failed
    · split
      · next value _ _ _ failed => exact (Json.count_honest value).passed failed
      · exact .statistic fun _ => genuine_of_ofCount

namespace Catalog

theorem readAttributes_honest (documents : List Json) : Honest (readAttributes documents) := by
  induction documents with
  | nil => exact .ok _
  | cons document rest induction =>
      rw [readAttributes]
      split
      · next failed => exact (Attribute.ofDocument_honest document).passed failed
      · split
        · next failed => exact induction.passed failed
        · exact .ok _

theorem attributeDocuments_honest (members : List (String × Json)) :
    Honest (attributeDocuments members) := by
  unfold attributeDocuments
  split
  · exact .ok _
  · exact .ok _
  · exact .ok _
  · split
    · exact .ok _
    · exact .of_ne nofun
  · exact .of_ne nofun

theorem readRelation_honest (document : Json) : Honest (readRelation document) := by
  unfold readRelation
  split
  · next members =>
      split
      · next failed => exact (attributeDocuments_honest members).passed failed
      · next documents _ =>
          split
          · next failed => exact (readAttributes_honest documents).passed failed
          · split
            · exact .of_ne nofun
            · next value _ =>
                split
                · next failed => exact (Json.count_honest value).passed failed
                · exact (Honest.statistic fun _ => genuine_of_tupleCountOf).map _
  · exact .of_ne nofun

theorem readRelations_honest (members : List (String × Json)) :
    Honest (readRelations members) := by
  induction members with
  | nil => exact .ok _
  | cons member rest induction =>
      rw [readRelations]
      split
      · next failed => exact (readRelation_honest member.2).passed failed
      · split
        · next failed => exact induction.passed failed
        · exact .ok _

theorem ofDocument_honest (document : Json) : Honest (ofDocument document) := by
  unfold ofDocument
  split
  · exact (readRelations_honest _).map _
  · exact .of_ne nofun

end Catalog

namespace CatalogRow

/-- None of the entries that count is a refused statistic. -/
structure Plain (row : CatalogRow) : Prop where
  tuples : Honest row.tuples
  column : Honest row.column
  values : Honest row.values

theorem entries_honest (frame : Frame) (look : List Cell → List Cell) (name : String) :
    ∀ entry ∈ entries frame look name, Honest entry := by
  intro entry member
  rw [entries] at member
  split at member
  · obtain ⟨cell, -, rfl⟩ := List.mem_map.mp member
    exact .ok cell
  · rw [List.eq_of_mem_replicate member]
    exact .of_ne nofun

theorem parts_of_ofFrame {columns : CatalogColumns} {frame : Frame} {rows : List CatalogRow}
    (found : ofFrame columns frame = .ok rows) :
    ∃ relations, Entries.get? frame.columns columns.relation = some relations ∧
      ∀ row ∈ rows, row.relation ∈ relations ∧
        row.tuples ∈ entries frame id columns.tuples ∧
        row.column ∈ entries frame frame.cellsInRows columns.attributes ∧
        row.values ∈ entries frame frame.cellsInRows columns.values ∧
        row.word = frame.rowKind? := by
  rw [ofFrame] at found
  split at found
  · cases found
  · next relations named =>
      cases found
      refine ⟨relations, named, fun row member => ?_⟩
      rw [← List.map_uncurry_zip_eq_zipWith] at member
      obtain ⟨⟨relation, tuples, column, values⟩, within, rfl⟩ := List.mem_map.mp member
      obtain ⟨inRelations, others⟩ := List.of_mem_zip within
      obtain ⟨inTuples, others⟩ := List.of_mem_zip others
      obtain ⟨inColumn, inValues⟩ := List.of_mem_zip others
      exact ⟨inRelations, inTuples, inColumn, inValues, rfl⟩

theorem plain_of_ofFrame {columns : CatalogColumns} {frame : Frame} {rows : List CatalogRow}
    (read : ofFrame columns frame = .ok rows) : ∀ row ∈ rows, row.Plain := by
  obtain ⟨relations, -, parts⟩ := parts_of_ofFrame read
  intro row member
  obtain ⟨-, inTuples, inColumn, inValues, -⟩ := parts row member
  exact ⟨entries_honest _ _ _ _ inTuples, entries_honest _ _ _ _ inColumn,
    entries_honest _ _ _ _ inValues⟩

theorem count_honest {entry : Entry} (honest : Honest entry) : Honest entry.count := by
  unfold Entry.count
  split
  · exact .mapError nofun
  · next fault => exact honest.passed rfl

theorem attribute?_honest {row : CatalogRow} (plain : row.Plain) : Honest row.attribute? := by
  unfold attribute?
  split
  · next failed => exact plain.column.passed failed
  · split
    · exact .of_ne nofun
    · exact .ok _
    · split
      · next failed => exact (count_honest plain.values).passed failed
      · exact (Honest.statistic fun _ => Attribute.genuine_of_ofCount).map _

theorem attributes_honest {rows : List CatalogRow} (plain : ∀ row ∈ rows, row.Plain) :
    Honest (attributes rows) := by
  induction rows with
  | nil => exact .ok _
  | cons row rest induction =>
      have others := induction fun other member => plain other (List.mem_cons_of_mem row member)
      rw [attributes]
      split
      · next failed => exact (attribute?_honest (plain row List.mem_cons_self)).passed failed
      · split
        · next failed => exact others.passed failed
        · exact .ok _

theorem tupleCount_honest {row : CatalogRow} (plain : row.Plain) : Honest row.tupleCount := by
  unfold tupleCount
  split
  · next failed => exact (count_honest plain.tuples).passed failed
  · exact .statistic fun _ => genuine_of_tupleCountOf

theorem relationOf_honest {first : CatalogRow} {rest : List CatalogRow} (plain : first.Plain)
    (others : ∀ row ∈ rest, row.Plain) : Honest (relationOf first rest) := by
  unfold relationOf
  split
  · next failed => exact (tupleCount_honest plain).passed failed
  · split
    · next failed =>
        exact (attributes_honest (List.forall_mem_cons.mpr ⟨plain, others⟩)).passed failed
    · exact .ok _

theorem relations_honest (rows : List CatalogRow) (plain : ∀ row ∈ rows, row.Plain) :
    Honest (relations rows) := by
  induction rows using relations.induct with
  | case1 =>
      rw [relations]
      exact .ok _
  | case2 first rest fault failed =>
      rw [relations, failed]
      have others : ∀ row ∈ about first.relation rest, row.Plain := fun row member =>
        plain row (List.mem_cons_of_mem first (List.mem_filter.mp member).1)
      exact (relationOf_honest (plain first List.mem_cons_self) others).passed failed
  | case3 first rest relation read fault failed induction =>
      rw [relations, read, failed]
      refine (induction fun row member => ?_).passed failed
      exact plain row (List.mem_cons_of_mem first (List.mem_filter.mp member).1)
  | case4 first rest relation read others later induction =>
      rw [relations, read, later]
      exact .ok _

end CatalogRow

namespace Catalog

theorem ofRows_honest {rows : List CatalogRow} (plain : ∀ row ∈ rows, row.Plain) :
    Honest (ofRows rows) := by
  unfold ofRows
  split
  · exact .of_ne nofun
  · refine (CatalogRow.relations_honest _ fun row member => ?_).map _
    exact plain row (List.mem_filter.mp member).1

theorem ofFrame_honest (columns : CatalogColumns) (frame : Frame) :
    Honest (ofFrame columns frame) := by
  unfold ofFrame
  split
  · next failed =>
      unfold CatalogRow.ofFrame at failed
      split at failed
      · cases failed
        exact .of_ne nofun
      · cases failed
  · next rows read => exact ofRows_honest (CatalogRow.plain_of_ofFrame read)

theorem characters_honest (files : Files) (path : String) : Honest (files.characters path) := by
  unfold Files.characters
  split
  · exact .ok _
  · exact .of_ne nofun

theorem table_honest (files : Files) (isText : String → Bool) (path : String) :
    Honest (files.table isText path) := by
  have readable := characters_honest files (String.ofList (Text.normalPath path.toList))
  unfold Files.table
  simp only
  split
  · split
    · next failed => exact readable.passed failed
    · exact .mapError nofun
  · split
    · split
      · next failed => exact readable.passed failed
      · unfold Files.documentTable
        split
        · exact .of_ne nofun
        · split
          · exact .of_ne nofun
          · exact .ok _
    · exact .of_ne nofun

theorem ofTableFile_honest (columns : CatalogColumns) (files : Files) (path : String) :
    Honest (ofTableFile columns files path) := by
  unfold ofTableFile
  split
  · next failed => exact (table_honest files _ path).passed failed
  · exact ofFrame_honest columns _

theorem ofDocumentFile_honest (limit : Option Nat) (files : Files) (path : String) :
    Honest (ofDocumentFile limit files path) := by
  unfold ofDocumentFile
  split
  · next failed => exact (characters_honest files path).passed failed
  · split
    · exact .of_ne nofun
    · exact ofDocument_honest _

/-- In reading a file, a statistic is refused only for a count that is out of bounds. -/
theorem ofFile_honest (format : CatalogFormat) (files : Files) (path : String) :
    Honest (ofFile format files path) := by
  unfold ofFile ofFileWithin
  split
  · exact ofTableFile_honest _ files path
  · exact ofDocumentFile_honest _ files path
  · split
    · exact ofTableFile_honest _ files path
    · split
      · exact ofDocumentFile_honest _ files path
      · exact .of_ne nofun

end Catalog

end Selectivity
