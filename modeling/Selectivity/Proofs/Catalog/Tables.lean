import Selectivity.Proofs.Catalog.Counts
import Selectivity.Proofs.Catalog.Frames

/-!
# Catalogues from rows in any order

A row says how many tuples a relation has, and it may say how many values one of its attributes
takes. However the rows of several relations are mixed, each relation is made of its own rows: it
has the size that the first of them says, and the attributes in their order. If one of the counts
that are used is out of bounds, there is no catalogue, and the fault tells the count if all counts
can be written.
-/

namespace Selectivity

open Selectivity.Frame

/-- What a row says of a relation. -/
structure StatisticsRow where
  relation : String
  tuples : Int
  /-- An attribute and its number of values, unless the row has none. -/
  column : Option (String × Int)
  deriving DecidableEq, Repr

/-- The entries for the name and the count of an attribute. If the name misses, the count can be
anything. -/
inductive Mentions : Option (String × Int) → Cell → Cell → Prop where
  | column (name : String) (count : Int) :
      Mentions (some (name, count)) (.text name) (.integer count)
  | none {name : Cell} (count : Cell) (missing : name.isMissing = true) : Mentions none name count

/-- The name and the count of an attribute. -/
def Attribute.pair (column : Attribute) : Label × Int :=
  (column.name, column.valueCount)

namespace StatisticsRow

/-- The entries of a row say this, in any order and possibly among others. -/
structure Held (row : StatisticsRow) (entries : List (String × Cell)) : Prop where
  relation : Entries.get? entries "relation" = some (.text row.relation)
  tuples : Entries.get? entries "tuple_count" = some (.integer row.tuples)
  named : "attribute" ∈ Entries.names entries
  counted : "value_count" ∈ Entries.names entries
  mentions : Mentions row.column (entryOf "attribute" entries) (entryOf "value_count" entries)

/-- The rows of a table, all with the same names for their entries, say this. -/
structure Tabulated (rows : List StatisticsRow) (table : List (List (String × Cell))) : Prop where
  held : List.Forall₂ Held rows table
  shared : ∀ row ∈ table, ∀ other ∈ table, Entries.names row ⊆ Entries.names other

/-- The entries of a row in the order of the columns, and empty values for what it does not have. -/
def entries (row : StatisticsRow) : List (String × Cell) :=
  [("relation", .text row.relation), ("tuple_count", .integer row.tuples),
    ("attribute", row.column.elim .null fun column => .text column.1),
    ("value_count", row.column.elim .null fun column => .integer column.2)]

theorem held_entries (row : StatisticsRow) : row.Held row.entries where
  relation := rfl
  tuples := rfl
  named := .tail _ (.tail _ (.head _))
  counted := .tail _ (.tail _ (.tail _ (.head _)))
  mentions := by
    obtain ⟨relation, tuples, _ | ⟨name, count⟩⟩ := row
    · exact .none .null rfl
    · exact .column name count

theorem tabulated_entries (rows : List StatisticsRow) : Tabulated rows (rows.map entries) where
  held := List.forall₂_map_right_iff.mpr (List.forall₂_same.mpr fun row _ => row.held_entries)
  shared := by
    intro _ member _ memberToo
    obtain ⟨row, -, rfl⟩ := List.mem_map.mp member
    obtain ⟨other, -, rfl⟩ := List.mem_map.mp memberToo
    exact List.Subset.refl _

/-- The name and the count that a row offers for an attribute. -/
def offer (column : String × Int) : Label × Int :=
  (column.1, column.2)

/-- The counts in the rows of one relation that are used are in bounds. -/
structure Sound (own : List StatisticsRow) : Prop where
  tuples : ∀ first ∈ own.head?, 0 ≤ first.tuples
  columns : ∀ row ∈ own, ∀ column ∈ row.column, 1 ≤ column.2

instance (own : List StatisticsRow) : Decidable (Sound own) :=
  decidable_of_iff ((∀ first ∈ own.head?, 0 ≤ first.tuples) ∧
    ∀ row ∈ own, ∀ column ∈ row.column, 1 ≤ column.2)
    ⟨fun sound => ⟨sound.1, sound.2⟩, fun sound => ⟨sound.tuples, sound.columns⟩⟩

/-- The counts of all relations that are used are in bounds. -/
def InBounds (rows : List StatisticsRow) : Prop :=
  ∀ group ∈ groups relation rows, Sound group.2

instance (rows : List StatisticsRow) : Decidable (InBounds rows) :=
  inferInstanceAs (Decidable (∀ group ∈ groups relation rows, Sound group.2))

/-- The counts that a row says can be written. -/
structure Short (row : StatisticsRow) : Prop where
  tuples : Text.exceedsDigits row.tuples.natAbs = false
  column : ∀ column ∈ row.column, Text.exceedsDigits column.2.natAbs = false

/-- A relation is what its rows describe. -/
structure Describe (own : List StatisticsRow) (relation : Relation) : Prop where
  tuples : own.head?.map StatisticsRow.tuples = some (relation.tupleCount : Int)
  columns : relation.attributes.map Attribute.pair = (own.filterMap column).map offer

/-- A catalogue has one relation for each name, in the order in which the names first occur, and
each relation is what the rows of its name describe. -/
def Keeps (rows : List StatisticsRow) (statistics : Catalog Relation) : Prop :=
  List.Forall₂ (fun group entry => entry.1 = group.1 ∧ Describe group.2 entry.2)
    (groups relation rows) statistics.entries

end StatisticsRow

/-- One answer after the other, of which the first fault counts. -/
def inTurn {First Second Value : Type} (first : Except CatalogFault First)
    (second : Except CatalogFault Second) (image : First → Second → Value) :
    Except CatalogFault Value :=
  match first with
  | .error fault => .error fault
  | .ok left =>
      match second with
      | .error fault => .error fault
      | .ok behind => .ok (image left behind)

/-- An answer that is right if the counts are sound, and otherwise the fault of a count that is out
of bounds. If the counts are short, the fault tells the count. -/
inductive Answers {Value : Type} (short sound : Prop) (right : Value → Prop) :
    Except CatalogFault Value → Prop where
  | ok {value : Value} (holds : sound) (meets : right value) : Answers short sound right (.ok value)
  | refused {fault : StatisticFault} (fails : ¬ sound) (genuine : fault.Genuine)
      (tells : short → fault.isTold = true) : Answers short sound right (.error (.statistic fault))

namespace Answers

variable {First Second Value : Type} {short sound soundToo : Prop}

theorem congr {right : Value → Prop} {answer : Except CatalogFault Value}
    (same : sound ↔ soundToo) (answers : Answers short sound right answer) :
    Answers short soundToo right answer := by
  cases answers with
  | ok holds meets => exact .ok (same.mp holds) meets
  | refused fails genuine tells =>
      exact .refused (fun holds => fails (same.mpr holds)) genuine tells

theorem map {right : First → Prop} {rightToo : Value → Prop} {answer : Except CatalogFault First}
    {image : First → Value} (answers : Answers short sound right answer)
    (meets : ∀ value, right value → rightToo (image value)) :
    Answers short sound rightToo (answer.map image) := by
  cases answers with
  | ok holds right => exact .ok holds (meets _ right)
  | refused fails genuine tells => exact .refused fails genuine tells

theorem both {one : First → Prop} {other : Second → Prop} {right : Value → Prop}
    {first : Except CatalogFault First} {second : Except CatalogFault Second}
    {image : First → Second → Value} (front : Answers short sound one first)
    (back : Answers short soundToo other second)
    (meets : ∀ left behind, one left → other behind → right (image left behind)) :
    Answers short (sound ∧ soundToo) right (inTurn first second image) := by
  cases front with
  | refused fails genuine tells => exact .refused (fun both => fails both.1) genuine tells
  | ok holds here =>
      cases back with
      | refused fails genuine tells => exact .refused (fun both => fails both.2) genuine tells
      | ok also there => exact .ok ⟨holds, also⟩ (meets _ _ here there)

end Answers

namespace CatalogRow

/-- What is read of a row is what it says. -/
structure Reads (short : Prop) (row : CatalogRow) (told : StatisticsRow) : Prop where
  relation : row.relation = .text told.relation
  tuples : Answers short (0 ≤ told.tuples) (fun count : Nat => (count : Int) = told.tuples)
    row.tupleCount
  column : Answers short (∀ column ∈ told.column, 1 ≤ column.2)
    (fun found : Option Attribute => found.map Attribute.pair = told.column.map StatisticsRow.offer)
    row.attribute?

theorem answers_tupleCount {row : CatalogRow} {count : Int} {short : Prop}
    (few : short → Text.exceedsDigits count.natAbs = false)
    (found : row.tuples = .ok (.integer count)) :
    Answers short (0 ≤ count) (fun kept : Nat => (kept : Int) = count) row.tupleCount := by
  have counted : row.tupleCount = (tupleCountOf count).mapError .statistic := by
    rw [tupleCount, found]
    rfl
  rw [counted]
  rcases tupleCountOf_cases count with ⟨negative, told⟩ | ⟨least, kept, told, same⟩
  · rw [told]
    refine .refused (Int.not_le.mpr negative) (genuine_of_tupleCountOf told) fun short => ?_
    rw [StatisticFault.ofRefusal_of_short (few short)]
    rfl
  · rw [told]
    exact .ok least same

/-- An attribute is read from the entries that mention it, however a table shows them. -/
theorem answers_attribute? {row : CatalogRow} {column : Option (String × Int)}
    {name values called counted : Cell} {short : Prop} (mentions : Mentions column called counted)
    (small : ∀ named ∈ column, named.2 ≤ 2 ^ Binary64.precision)
    (few : short → ∀ named ∈ column, Text.exceedsDigits named.2.natAbs = false)
    (plain : row.word = none)
    (naming : row.column = .ok name) (shown : Shows called name)
    (counting : row.values = .ok values) (shownToo : Shows counted values) :
    Answers short (∀ named ∈ column, 1 ≤ named.2)
      (fun found : Option Attribute => found.map Attribute.pair = column.map StatisticsRow.offer)
      row.attribute? := by
  cases mentions with
  | none count missing =>
      rw [attribute?_of_misses naming (shown.misses missing)]
      exact .ok nofun rfl
  | column text number =>
      obtain ⟨count, found, same, below, digits⟩ := shownToo.count_of_le (small _ rfl)
      have read : row.attribute? =
          ((Attribute.ofCount (text : Label) count).mapError .statistic).map some := by
        have value : row.values.count = .ok count := by
          rw [counting]
          exact congrArg (Except.mapError CatalogFault.count) found
        rw [attribute?, naming, shown.text]
        simp only [Cell.misses?, Cell.isMissing, value, plain]
        rfl
      have bounds : 1 ≤ count ↔ 1 ≤ number := by
        constructor
        · intro least
          by_contra less
          have under := below (Int.not_le.mp less)
          omega
        · intro least
          rwa [same least]
      rw [read]
      rcases Attribute.ofCount_cases (text : Label) count with
        ⟨tooSmall, told⟩ | ⟨least, made, told, called, kept⟩
      · rw [told]
        refine .refused (fun holds => absurd (bounds.mpr (holds _ rfl)) (Int.not_le.mpr tooSmall))
          (Attribute.genuine_of_ofCount told) fun short => ?_
        rw [StatisticFault.ofRefusal_of_short (digits (few short _ rfl))]
        rfl
      · rw [told]
        have within := bounds.mp least
        refine .ok (fun named here => ?_) ?_
        · cases here
          exact within
        · exact congrArg some (Prod.ext called (kept.trans (same within)))

open StatisticsRow

variable {rows : List CatalogRow} {told : List StatisticsRow} {short : Prop}

theorem attributes_cons (row : CatalogRow) (rows : List CatalogRow) :
    attributes (row :: rows) =
      inTurn row.attribute? (attributes rows) fun found others => found.toList ++ others := by
  rw [attributes]
  cases row.attribute? with
  | error fault => rfl
  | ok found => cases attributes rows <;> rfl

theorem relationOf_eq (row : CatalogRow) (rows : List CatalogRow) :
    relationOf row rows = inTurn row.tupleCount (attributes (row :: rows)) Relation.mk := by
  rw [relationOf]
  cases row.tupleCount with
  | error fault => rfl
  | ok count => cases attributes (row :: rows) <;> rfl

theorem relations_cons (row : CatalogRow) (rows : List CatalogRow) :
    relations (row :: rows) =
      inTurn (relationOf row (about row.relation rows)) (relations (aboutOthers row.relation rows))
        fun relation others => (row.relation.label.display, relation) :: others := by
  rw [relations]
  cases relationOf row (about row.relation rows) with
  | error fault => rfl
  | ok relation => cases relations (aboutOthers row.relation rows) <;> rfl

theorem answers_attributes (reads : List.Forall₂ (Reads short) rows told) :
    Answers short (∀ row ∈ told, ∀ column ∈ row.column, 1 ≤ column.2)
      (fun found => found.map Attribute.pair = (told.filterMap StatisticsRow.column).map offer)
      (attributes rows) := by
  induction reads with
  | nil => exact .ok nofun rfl
  | @cons row first rows rest here _ induction =>
      rw [attributes_cons]
      refine (here.column.both induction ?_).congr List.forall_mem_cons.symm
      intro found others own later
      rw [List.map_append, later, List.filterMap_cons]
      cases found with
      | none =>
          rw [Option.map_none, eq_comm, Option.map_eq_none_iff] at own
          rw [own]
          rfl
      | some column =>
          obtain ⟨named, called, same⟩ := Option.map_eq_some_iff.mp own.symm
          rw [called]
          exact congrArg (· :: _) same.symm

theorem answers_relationOf {row : CatalogRow} {first : StatisticsRow} (here : Reads short row first)
    (reads : List.Forall₂ (Reads short) rows told) :
    Answers short (Sound (first :: told)) (Describe (first :: told)) (relationOf row rows) := by
  have sound : (0 ≤ first.tuples ∧ ∀ row ∈ first :: told, ∀ column ∈ row.column, 1 ≤ column.2) ↔
      Sound (first :: told) := by
    constructor
    · rintro ⟨size, counts⟩
      refine ⟨fun row least => ?_, counts⟩
      cases least
      exact size
    · exact fun sound => ⟨sound.tuples first rfl, sound.columns⟩
  rw [relationOf_eq]
  refine (here.tuples.both (answers_attributes (.cons here reads)) ?_).congr sound
  intro count found size columns
  exact ⟨congrArg some size.symm, columns⟩

theorem answers_relations {rows : List CatalogRow} {told : List StatisticsRow}
    (reads : List.Forall₂ (Reads short) rows told) :
    Answers short (InBounds told)
      (List.Forall₂ (fun group entry => entry.1 = group.1 ∧ Describe group.2 entry.2)
        (groups StatisticsRow.relation told))
      (relations rows) := by
  match reads with
  | .nil =>
      rw [relations]
      exact .ok (List.forall_mem_nil _) .nil
  | @List.Forall₂.cons _ _ _ row first rest others here later =>
      have own := forall₂_about here.relation (fun _ _ reads => reads.relation) later
      have apart := forall₂_aboutOthers here.relation (fun _ _ reads => reads.relation) later
      rw [relations_cons, InBounds, groups_cons]
      refine ((answers_relationOf here own).both (answers_relations apart) ?_).congr
        List.forall_mem_cons.symm
      intro relation entries describes kept
      refine .cons ⟨?_, describes⟩ kept
      rw [here.relation]
      rfl
termination_by rows.length
decreasing_by
  exact Nat.lt_succ_of_le (length_aboutOthers_le row.relation rest)

end CatalogRow

namespace Catalog

/-- Relations under the names of groups are a catalogue, since the names are distinct. -/
theorem keeps_ofList {rows : List StatisticsRow} {entries : List (String × Relation)}
    (kept : List.Forall₂
      (fun group entry => entry.1 = group.1 ∧ StatisticsRow.Describe group.2 entry.2)
      (groups StatisticsRow.relation rows) entries) :
    StatisticsRow.Keeps rows (ofList entries) := by
  have same : Entries.names entries = (groups StatisticsRow.relation rows).map Prod.fst :=
    (forall₂_eq_iff.mp (kept.imp fun _ _ here => here.1.symm)).symm
  have distinct : (Entries.names entries).Nodup := by
    rw [same, groups_names]
    exact Entries.nodup_eraseDups _
  rw [StatisticsRow.Keeps, ofList]
  simp only [Entries.ofList_of_distinct distinct]
  exact kept

end Catalog

namespace StatisticsRow

variable {told : List StatisticsRow} {table : List (List (String × Cell))}

theorem mem_names_of_get? {entries : List (String × Cell)} {name : String} {cell : Cell}
    (found : Entries.get? entries name = some cell) : name ∈ Entries.names entries :=
  List.mem_map.mpr ⟨_, Entries.get?_eq_some_mem found, rfl⟩

theorem entryOf_eq {entries : List (String × Cell)} {name : String} {cell : Cell}
    (found : Entries.get? entries name = some cell) : entryOf name entries = cell := by
  rw [entryOf, found]
  rfl

theorem Held.names {row : StatisticsRow} {entries : List (String × Cell)}
    (held : row.Held entries) :
    ∀ name ∈ ["relation", "tuple_count", "attribute", "value_count"],
      name ∈ Entries.names entries := by
  simp only [List.forall_mem_cons]
  exact ⟨mem_names_of_get? held.relation, mem_names_of_get? held.tuples, held.named, held.counted,
    List.forall_mem_nil _⟩

/-- The entries that are found for an attribute show those that mention it. -/
def Finds (row : StatisticsRow) (found : Entry × Entry) : Prop :=
  ∃ called counted name values, Mentions row.column called counted ∧
    found = (.ok name, .ok values) ∧ Shows called name ∧ Shows counted values

theorem reads_of_finds {row : CatalogRow} {told : StatisticsRow} {short : Prop}
    (small : ∀ column ∈ told.column, column.2 ≤ 2 ^ Binary64.precision)
    (few : short → told.Short)
    (named : row.relation = .text told.relation) (plain : row.word = none)
    (sized : row.tuples = .ok (.integer told.tuples))
    (finds : told.Finds (row.column, row.values)) :
    row.Reads short told := by
  obtain ⟨called, counted, name, values, mentions, found, shown, shownToo⟩ := finds
  obtain ⟨naming, counting⟩ := Prod.mk.inj found
  exact ⟨named, CatalogRow.answers_tupleCount (fun short => (few short).tuples) sized,
    CatalogRow.answers_attribute? mentions small (fun short => (few short).column) plain naming
      shown counting shownToo⟩

theorem Tabulated.exists_rows (tabulated : Tabulated told table) (nonempty : told ≠ [])
    (small : ∀ row ∈ told, ∀ column ∈ row.column, column.2 ≤ 2 ^ Binary64.precision) :
    ∃ frame, Frame.ofRows? table = some frame ∧
      ∃ rows, CatalogRow.ofFrame .standard frame = .ok rows ∧
        List.Forall₂ (CatalogRow.Reads (∀ row ∈ told, row.Short)) rows told := by
  obtain ⟨held, shared⟩ := tabulated
  have names : ∀ entries ∈ table, ∀ name ∈ ["relation", "tuple_count", "attribute", "value_count"],
      name ∈ Entries.names entries :=
    ((List.forall₂_and_left _ _).mp (held.flip.imp fun _ _ here => ⟨here.names, here⟩)).1
  have high : table ≠ [] := by
    rintro rfl
    exact nonempty (List.forall₂_nil_right_iff.mp held)
  have wide : ∀ entries ∈ table, entries ≠ [] := by
    rintro _ inside rfl
    exact absurd (names [] inside "relation" (by decide)) List.not_mem_nil
  obtain ⟨frame, made, columns⟩ := exists_ofRows? high wide shared
  have column : ∀ name ∈ ["relation", "tuple_count", "attribute", "value_count"],
      Entries.get? frame.columns name = some (settle (table.map (entryOf name))) :=
    fun name member => columns name fun entries inside => names entries inside name member
  refine ⟨frame, made, ?_⟩
  -- the names and the sizes are shown as they are
  have named : List.Forall₂ (fun row entries => Cell.text row.relation = entryOf "relation" entries)
      told table := held.imp fun _ _ here => (entryOf_eq here.relation).symm
  have sized : List.Forall₂
      (fun row entries => Cell.integer row.tuples = entryOf "tuple_count" entries) told table :=
    held.imp fun _ _ here => (entryOf_eq here.tuples).symm
  have first := column "relation" (by decide)
  rw [← forall₂_eq_iff.mp named, settle_texts relation] at first
  obtain ⟨row, among⟩ := List.exists_mem_of_ne_nil told nonempty
  have plain : frame.rowKind? = none :=
    rowKind?_of_text (Entries.get?_eq_some_mem first) (List.mem_map_of_mem among)
  have tuples : List.Forall₂ (fun row found => found = Except.ok (Cell.integer row.tuples)) told
      (CatalogRow.entries frame id "tuple_count") := by
    rw [CatalogRow.entries, column "tuple_count" (by decide), ← forall₂_eq_iff.mp sized,
      settle_integers StatisticsRow.tuples]
    simp only [id, List.map_map]
    exact List.forall₂_map_right_iff.mpr (List.forall₂_same.mpr fun _ _ => rfl)
  have called := CatalogRow.shows_entries (shows_cellsInRows plain) (column "attribute" (by decide))
  have counted :=
    CatalogRow.shows_entries (shows_cellsInRows plain) (column "value_count" (by decide))
  have finds : List.Forall₂ Finds told ((CatalogRow.entries frame frame.cellsInRows "attribute").zip
      (CatalogRow.entries frame frame.cellsInRows "value_count")) := by
    refine forall₂_comp ?_ held (forall₂_pairs called counted)
    rintro row entries ⟨_, _⟩ here ⟨⟨name, rfl, shown⟩, values, rfl, shownToo⟩
    exact ⟨_, _, name, values, here.mentions, rfl, shown, shownToo⟩
  obtain ⟨rows, found, shown⟩ :=
    CatalogRow.rows_of_columns nonempty first (forall₂_pairs tuples finds)
  have among : ∀ row ∈ told, row ∈ told ∧ ∀ column ∈ row.column, column.2 ≤ 2 ^ Binary64.precision :=
    fun row member => ⟨member, small row member⟩
  refine ⟨rows, found, (((List.forall₂_and_left _ _).mpr ⟨among, shown.flip⟩).imp ?_).flip⟩
  rintro row read ⟨⟨member, small⟩, named, plain, sized, finds⟩
  exact reads_of_finds small (fun short => short row member) named plain sized finds

/-- A table of rows makes a catalogue that keeps what they say, unless a count that is used is out
of bounds. -/
theorem Tabulated.answers_ofFrame (tabulated : Tabulated told table) (nonempty : told ≠ [])
    (small : ∀ row ∈ told, ∀ column ∈ row.column, column.2 ≤ 2 ^ Binary64.precision) :
    ∃ frame, Frame.ofRows? table = some frame ∧
      Answers (∀ row ∈ told, row.Short) (InBounds told) (Keeps told)
        (Catalog.ofFrame .standard frame) := by
  obtain ⟨frame, made, rows, found, reads⟩ := tabulated.exists_rows nonempty small
  refine ⟨frame, made, ?_⟩
  have read : Catalog.ofFrame .standard frame =
      (CatalogRow.relations rows).map Catalog.ofList := by
    rw [Catalog.ofFrame, found]
    exact Catalog.ofRows_of_texts (CatalogRow.text_of_calls (fun _ _ row => row.relation) reads)
  rw [read]
  exact (CatalogRow.answers_relations reads).map fun _ kept => Catalog.keeps_ofList kept

theorem Describe.unique {own : List StatisticsRow} {relation other : Relation}
    (describes : Describe own relation) (also : Describe own other) : relation = other := by
  have pairs : Function.Injective Attribute.pair := by
    rintro ⟨name, count, positive⟩ ⟨another, number, _⟩ same
    obtain ⟨rfl, counts⟩ := Prod.mk.inj same
    cases Int.ofNat.inj counts
    rfl
  have sizes := Int.ofNat.inj (Option.some.inj (describes.tuples.symm.trans also.tuples))
  have attributes := pairs.list_map (describes.columns.trans also.columns.symm)
  obtain ⟨tupleCount, columns⟩ := relation
  obtain ⟨number, others⟩ := other
  cases sizes
  cases attributes
  rfl

theorem Keeps.unique {others : List StatisticsRow} {statistics otherStatistics : Catalog Relation}
    (keeps : Keeps told statistics) (also : Keeps others otherStatistics)
    (same : groups relation told = groups relation others) : statistics = otherStatistics := by
  rw [Keeps, ← same] at also
  have entries : statistics.entries = otherStatistics.entries := by
    refine List.right_unique_forall₂' ?_ keeps also
    rintro group ⟨name, relation⟩ ⟨another, other⟩ ⟨called, describes⟩ ⟨calledToo, also⟩
    rw [Prod.mk.injEq]
    exact ⟨called.trans calledToo.symm, describes.unique also⟩
  obtain ⟨listed, distinct⟩ := statistics
  obtain ⟨listedToo, distinctToo⟩ := otherStatistics
  cases entries
  rfl

/-- The groups of rows only depend on the order in which the names first occur and on the rows of
each name. -/
theorem groups_congr {others : List StatisticsRow}
    (order : (told.map relation).eraseDups = (others.map relation).eraseDups)
    (own : ∀ name, told.filter (fun row => row.relation == name) =
      others.filter fun row => row.relation == name) :
    groups relation told = groups relation others := by
  rw [groups, groups, order]
  exact List.map_congr_left fun name _ => congrArg (Prod.mk name) (own name)

end StatisticsRow

end Selectivity
