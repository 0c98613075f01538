import Selectivity.Proofs.Catalog.Rows
import Selectivity.Proofs.Session.Catalogs

/-!
# Two files of one catalogue

A catalogue can be kept as rows or as a document. Both files are loaded, and what comes from them is
the same unless some name is a word for a missing entry: then the file of rows loses what is called
by it, while the document keeps everything.
-/

namespace Selectivity

open Csv

namespace Csv

/-- Records on lines that end with a line feed each. -/
def printed (records : List Record) : List Char :=
  records.flatMap fun record => record.line ++ ['\n']

theorem prints_printed (records : List Record) : Prints records (printed records) := by
  induction records with
  | nil => exact .nil
  | cons record rest induction =>
      rw [printed, List.flatMap_cons, List.append_assoc]
      exact .line record (by decide) induction

end Csv

namespace Catalog

variable {catalog : Catalog Relation}

theorem InWords.named (words : catalog.InWords) : catalog.Named := by
  intro entry member column within
  obtain ⟨text, called, -⟩ := (words entry member).2 column within
  exact ⟨text, called⟩

end Catalog

namespace Session

/-- Let a catalogue whose names are words and whose counts are at most the power 53 of two be kept
in a file of rows and in a JSON file, in any layout. Any session loads both. The JSON file gives the
catalogue, and the file of rows gives what can be told from missing entries in it; so they give the
same relations in the same order exactly if no name is a word for a missing entry. -/
theorem file_formats_agree_iff {statistics : Catalog Relation} (words : statistics.InWords)
    (exact : statistics.Exact) {files : Files}
    {rowPath rowText documentPath documentText : String} {document : Json}
    (rowFormat : pathFormat rowPath = ".csv") (documentFormat : pathFormat documentPath = ".json")
    (rowFile : files (String.ofList (Text.normalPath rowPath.toList)) = .ok rowText)
    (documentFile : files documentPath = .ok documentText)
    (prints : Prints statistics.records rowText.toList)
    (described : statistics.DescribedBy document)
    (writes : Json.WritesFile (some Text.digitLimit) document documentText.toList)
    {session : Session} (reachable : session.Reachable) :
    let fromRows := session.perform (.loadCatalog .bySuffix files rowPath)
    let fromDocument := session.perform (.loadCatalog .bySuffix files documentPath)
    ∃ rowRef rowCatalog documentRef documentCatalog,
      fromRows.2 = .success (.catalog rowRef) ∧
      fromRows.1.store.catalog? rowRef = some rowCatalog ∧
      fromDocument.2 = .success (.catalog documentRef) ∧
      fromDocument.1.store.catalog? documentRef = some documentCatalog ∧
      fromDocument.1.store.catalogRelations documentCatalog = statistics ∧
      fromRows.1.store.catalogRelations rowCatalog = statistics.legible ∧
      (fromRows.1.store.catalogRelations rowCatalog =
        fromDocument.1.store.catalogRelations documentCatalog ↔ statistics.AllLegible) := by
  have byRows : Catalog.ofFile .bySuffix files rowPath = .ok statistics.legible :=
    Catalog.ofFile_of_prints words exact rowFormat rowFile prints
  have byDocument : Catalog.ofFile .bySuffix files documentPath = .ok statistics :=
    Catalog.ofFileWithin_of_describedBy words.named described documentFormat documentFile writes
  obtain ⟨rowRef, rowCatalog, rowsLoaded, rowsKnown, rowsSame⟩ :=
    loadCatalog_of_read reachable.store_wellFormed byRows
  obtain ⟨documentRef, documentCatalog, documentLoaded, documentKnown, documentSame⟩ :=
    loadCatalog_of_read reachable.store_wellFormed byDocument
  refine ⟨rowRef, rowCatalog, documentRef, documentCatalog, rowsLoaded, rowsKnown, documentLoaded,
    documentKnown, documentSame, rowsSame, ?_⟩
  rw [rowsSame, documentSame]
  exact Catalog.legible_eq_self_iff

/-- Both files of a catalogue: the rows under one name and the document under all others. -/
def bothFiles (statistics : Catalog Relation) : Files := fun path =>
  if path = "names.csv" then .ok (String.ofList (printed statistics.records))
  else .ok (statistics.document.render ⟨some 2, true⟩)

theorem prints_bothFiles (statistics : Catalog Relation) :
    Prints statistics.records (String.ofList (printed statistics.records)).toList := by
  rw [String.toList_ofList]
  exact prints_printed statistics.records

theorem writes_bothFiles {statistics : Catalog Relation} (named : statistics.Named)
    (writable : ∀ entry ∈ statistics.entries, entry.2.isWritable = true) :
    Json.WritesFile (some Text.digitLimit) statistics.document
      (statistics.document.render ⟨some 2, true⟩).toList :=
  (Catalog.exact_document named (Catalog.within_of_writable writable)).writesFile _

/-- A relation of which one attribute is called by a word for a missing entry, a relation that is
itself called so, and one without attributes. -/
def illegibleNames : Catalog Relation where
  entries := [("R", ⟨9007199254740992, [⟨"a", 30, by decide⟩, ⟨"null", 20, by decide⟩]⟩),
    ("NaN", ⟨4, [⟨"b", 4, by decide⟩]⟩), ("None_", ⟨0, []⟩)]
  distinct := by decide

theorem illegibleNames_agree_in_part :
    illegibleNames.InWords ∧ illegibleNames.Exact ∧ ¬ illegibleNames.AllLegible ∧
      let fromRows := initial.perform (.loadCatalog .bySuffix (bothFiles illegibleNames)
        "./names.csv")
      let fromDocument := initial.perform (.loadCatalog .bySuffix (bothFiles illegibleNames)
        "names.Json")
      ∃ rowCatalog documentCatalog,
        (fromDocument.1.store.catalogRelations documentCatalog).names = ["R", "NaN", "None_"] ∧
        (fromRows.1.store.catalogRelations rowCatalog).entries =
          [("R", ⟨9007199254740992, [⟨"a", 30, by decide⟩]⟩), ("None_", ⟨0, []⟩)] := by
  have words : illegibleNames.InWords := by
    refine List.forall_mem_cons.mpr ⟨⟨by decide, List.forall_mem_cons.mpr
      ⟨⟨"a", rfl, by decide⟩, List.forall_mem_singleton.mpr ⟨"null", rfl, by decide⟩⟩⟩, ?_⟩
    exact List.forall_mem_cons.mpr ⟨⟨by decide, List.forall_mem_singleton.mpr
      ⟨"b", rfl, by decide⟩⟩, List.forall_mem_singleton.mpr ⟨by decide, nofun⟩⟩
  have exact : illegibleNames.Exact := by
    unfold Catalog.Exact
    decide +kernel
  have missing : ¬ illegibleNames.AllLegible := by
    unfold Catalog.AllLegible
    decide +kernel
  have writable : ∀ entry ∈ illegibleNames.entries, entry.2.isWritable = true := by decide +kernel
  have rowFile : bothFiles illegibleNames (String.ofList (Text.normalPath "./names.csv".toList)) =
      .ok (String.ofList (printed illegibleNames.records)) := if_pos (by decide +kernel)
  have documentFile : bothFiles illegibleNames "names.Json" =
      .ok (illegibleNames.document.render ⟨some 2, true⟩) := if_neg (by decide)
  obtain ⟨rowRef, rowCatalog, documentRef, documentCatalog, -, -, -, -, kept, reduced, -⟩ :=
    file_formats_agree_iff words exact (by decide +kernel) (by decide +kernel) rowFile
      documentFile (prints_bothFiles illegibleNames) illegibleNames.describedBy_document
      (writes_bothFiles words.named writable) (reachable_run [])
  exact ⟨words, exact, missing, rowCatalog, documentCatalog, congrArg Catalog.names kept,
    congrArg Catalog.entries reduced⟩

/-- A relation with one attribute, which is called by a word for a missing entry. -/
def keywordAttribute : Catalog Relation where
  entries := [("R", ⟨10, [⟨"NA", 5, by decide⟩]⟩)]
  distinct := by decide

/-- The two files of a catalogue can differ by an attribute, though all its names are words and all
its counts are small. -/
theorem keywordAttribute_is_lost :
    keywordAttribute.InWords ∧ keywordAttribute.Exact ∧
      bothFiles keywordAttribute "names.csv" =
        .ok "relation,tuple_count,attribute,value_count\nR,10,NA,5\n" ∧
      bothFiles keywordAttribute "names.json" =
        .ok (keywordAttribute.document.render ⟨some 2, true⟩) ∧
      ∃ fromRows fromDocument,
        Catalog.ofFile .bySuffix (bothFiles keywordAttribute) "names.csv" = .ok fromRows ∧
        Catalog.ofFile .bySuffix (bothFiles keywordAttribute) "names.json" = .ok fromDocument ∧
        fromRows.entries = [("R", ⟨10, []⟩)] ∧
        fromDocument.entries = [("R", ⟨10, [⟨"NA", 5, by decide⟩]⟩)] := by
  have words : keywordAttribute.InWords :=
    List.forall_mem_singleton.mpr ⟨by decide, List.forall_mem_singleton.mpr
      ⟨"NA", rfl, by decide⟩⟩
  have exact : keywordAttribute.Exact := by
    unfold Catalog.Exact
    decide +kernel
  have writable : ∀ entry ∈ keywordAttribute.entries, entry.2.isWritable = true := by
    decide +kernel
  have rowFile : bothFiles keywordAttribute (String.ofList (Text.normalPath "names.csv".toList)) =
      .ok (String.ofList (printed keywordAttribute.records)) := if_pos (by decide +kernel)
  have documentFile : bothFiles keywordAttribute "names.json" =
      .ok (keywordAttribute.document.render ⟨some 2, true⟩) := if_neg (by decide)
  refine ⟨words, exact, by decide +kernel, documentFile, keywordAttribute.legible,
    keywordAttribute, ?_, ?_, by decide +kernel, rfl⟩
  · exact Catalog.ofFile_of_prints words exact (by decide +kernel) rowFile
      (prints_bothFiles keywordAttribute)
  · exact Catalog.ofFileWithin_of_describedBy words.named keywordAttribute.describedBy_document
      (by decide +kernel) documentFile (writes_bothFiles words.named writable)

end Session

end Selectivity
