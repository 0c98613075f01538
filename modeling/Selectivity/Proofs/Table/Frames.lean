import Mathlib.Algebra.Group.Int.Defs
import Mathlib.Data.List.Forall2
import Selectivity.Proofs.Table.Columns

/-!
# Tables of rows

Rows that name the same entries make a table with a column for each name. A table does not show
every entry as it was put in: the empty value may become a missing entry, and a whole number the
64-bit number that is next to it. What misses still misses, and a number that is not too large is
still that number.
-/

namespace Selectivity

namespace Frame

/-- How a table shows an entry. -/
inductive Shows : Cell → Cell → Prop
  | same (cell : Cell) : Shows cell cell
  | missing : Shows .null .missing
  /-- Only a number that fits into a word becomes a 64-bit number. -/
  | real (value : Int) (fits : value.natAbs ≤ WordKind.unsignedLimit.natAbs) :
      Shows (.integer value) (.real (.ofInt value))

namespace Shows

variable {cell shown found : Cell}

theorem trans (first : Shows cell found) (second : Shows found shown) : Shows cell shown := by
  cases first with
  | same => exact second
  | missing =>
      cases second
      exact missing
  | real value fits =>
      cases second
      exact real value fits

theorem text {value : String} (shows : Shows (.text value) shown) : shown = .text value := by
  cases shows
  rfl

theorem misses (missing : cell.isMissing = true) (shows : Shows cell shown) :
    shown.misses? = some true := by
  cases shows with
  | same => cases cell <;> first | rfl | cases missing
  | missing => rfl
  | real => cases missing

theorem count {value : Nat} (small : value ≤ 2 ^ Binary64.precision)
    (shows : Shows (.integer value) shown) : shown.count = .ok (value : Int) := by
  cases shows with
  | same => rfl
  | real => rw [Cell.count, Binary64.whole?_ofInt_natCast small]

/-- Below one a number may be rounded, but not up to one, and not to one that cannot be written. -/
theorem count_of_le {value : Int} (small : value ≤ 2 ^ Binary64.precision)
    (shows : Shows (.integer value) shown) :
    ∃ count, shown.count = .ok count ∧ (1 ≤ value → count = value) ∧ (value < 1 → count < 1) ∧
      (Text.exceedsDigits value.natAbs = false → Text.exceedsDigits count.natAbs = false) := by
  by_cases few : value < 1
  · have notOne : ¬ 1 ≤ value := by omega
    cases shows with
    | same => exact ⟨value, rfl, fun _ => rfl, id, id⟩
    | real _ fits =>
        obtain ⟨whole, rounded, less, size⟩ := Binary64.whole?_ofInt_of_lt_one few
        have short : Text.exceedsDigits whole.natAbs = false := by
          rw [size]
          have bound := Nat.le_trans (Binary64.round_le_double _) (Nat.mul_le_mul_left 2 fits)
          exact Text.exceedsDigits_of_le bound (by decide +kernel)
        exact ⟨whole, by rw [Cell.count, rounded], fun one => absurd one notOne, fun _ => less,
          fun _ => short⟩
  · obtain ⟨number, rfl⟩ := Int.eq_ofNat_of_zero_le (show 0 ≤ value by omega)
    exact ⟨number, shows.count (by exact_mod_cast small), fun _ => rfl, by omega, id⟩

end Shows

theorem shows_fillNull (cell : Cell) : Shows cell (fillNull cell) := by
  cases cell <;> constructor

/-- The whole numbers of a column that is held in 64-bit numbers fit into words. -/
theorem natAbs_le_of_fitsReals {cells : List Cell} (fits : fitsReals cells = true) {value : Int}
    (member : .integer value ∈ cells) : value.natAbs ≤ WordKind.unsignedLimit.natAbs := by
  rw [fitsReals, Bool.and_eq_true, Bool.not_eq_true'] at fits
  have inside : value ∈ integers cells := List.mem_filterMap.mpr ⟨_, member, rfl⟩
  have within := List.any_eq_false.mp fits.1 value inside
  rw [WordKind.signedLimit, WordKind.unsignedLimit, Bool.or_eq_true, decide_eq_true_eq,
    decide_eq_true_eq, not_or] at within
  rw [WordKind.unsignedLimit]
  omega

theorem shows_toReal {cell : Cell}
    (fits : ∀ value, cell = .integer value → value.natAbs ≤ WordKind.unsignedLimit.natAbs) :
    Shows cell (toReal cell) := by
  cases cell with
  | integer value => exact .real value (fits value rfl)
  | _ => constructor

theorem shows_self (cells : List Cell) : List.Forall₂ Shows cells cells :=
  List.forall₂_same.mpr fun cell _ => .same cell

theorem shows_map {change : Cell → Cell} {cells : List Cell}
    (shows : ∀ cell ∈ cells, Shows cell (change cell)) :
    List.Forall₂ Shows cells (cells.map change) :=
  List.forall₂_map_right_iff.mpr (List.forall₂_same.mpr shows)

theorem shows_settle (cells : List Cell) : List.Forall₂ Shows cells (settle cells) := by
  rw [settle]
  split
  · exact shows_self cells
  · split
    · exact shows_map fun cell _ => shows_fillNull cell
    · split
      · next numbers =>
          refine shows_map fun cell member => shows_toReal fun value same => ?_
          rw [same] at member
          exact natAbs_le_of_fitsReals (Bool.and_eq_true_iff.mp numbers).2 member
      · exact shows_self cells

/-- The rows of a table that does not hold words show the entries of a column. -/
theorem shows_cellsInRows {frame : Frame} (plain : frame.rowKind? = none) (cells : List Cell) :
    List.Forall₂ Shows cells (frame.cellsInRows cells) := by
  rw [cellsInRows, plain, if_neg (Option.some_ne_none _).symm]
  apply List.forall₂_iff_get.mpr
  refine ⟨List.length_mapIdx.symm, fun index within _ => ?_⟩
  simp only [List.get_eq_getElem, List.getElem_mapIdx, cellInRow]
  split
  · exact shows_fillNull _
  · exact .same _

theorem forall₂_comp {First Second Third : Type} {one : First → Second → Prop}
    {other : Second → Third → Prop} {both : First → Third → Prop} {firsts : List First}
    {seconds : List Second} {thirds : List Third}
    (meets : ∀ first second third, one first second → other second third → both first third)
    (left : List.Forall₂ one firsts seconds) (right : List.Forall₂ other seconds thirds) :
    List.Forall₂ both firsts thirds := by
  induction left generalizing thirds with
  | nil =>
      cases right
      exact .nil
  | cons here _ induction =>
      cases right with
      | cons next others => exact .cons (meets _ _ _ here next) (induction others)

theorem forall₂_eq_iff {First Second Value : Type} {one : First → Value} {other : Second → Value}
    {firsts : List First} {seconds : List Second} :
    List.Forall₂ (fun first second => one first = other second) firsts seconds ↔
      firsts.map one = seconds.map other := by
  rw [← List.forall₂_map_right_iff (R := fun first value => one first = value),
    ← List.forall₂_map_left_iff (R := (· = ·)), List.forall₂_eq_eq_eq]

theorem shows_trans {cells found shown : List Cell} (first : List.Forall₂ Shows cells found)
    (second : List.Forall₂ Shows found shown) : List.Forall₂ Shows cells shown :=
  forall₂_comp (fun _ _ _ here next => here.trans next) first second

theorem settle_texts {Item : Type} (text : Item → String) (items : List Item) :
    settle (items.map fun item => .text (text item)) = items.map fun item => .text (text item) := by
  have shows := shows_settle (items.map fun item => .text (text item))
  rw [List.forall₂_map_left_iff] at shows
  have same := forall₂_eq_iff.mp (shows.imp fun _ _ shown => shown.text.symm)
  rw [List.map_id'] at same
  exact same.symm

theorem settle_integers {Item : Type} (number : Item → Int) (items : List Item) :
    settle (items.map fun item => .integer (number item)) =
      items.map fun item => .integer (number item) := by
  have all : (items.map fun item => Cell.integer (number item)).all isInteger = true := by
    rw [List.all_map]
    exact List.all_eq_true.mpr fun _ _ => rfl
  rw [settle, all, Bool.or_true, if_pos rfl]

theorem forall₂_pairs {Item First Second : Type} {told : Item → First → Prop}
    {shown : Item → Second → Prop} {items : List Item} {firsts : List First}
    {seconds : List Second} (one : List.Forall₂ told items firsts)
    (other : List.Forall₂ shown items seconds) :
    List.Forall₂ (fun item pair => told item pair.1 ∧ shown item pair.2) items
      (firsts.zip seconds) := by
  induction one generalizing seconds with
  | nil =>
      cases other
      exact .nil
  | cons first _ induction =>
      cases other with
      | cons second others => exact .cons ⟨first, second⟩ (induction others)

theorem mapM_eq_some {Item Value : Type} {look : Item → Option Value} {image : Item → Value}
    {items : List Item} (found : ∀ item ∈ items, look item = some (image item)) :
    items.mapM look = some (items.map image) := by
  have each : items.map look = (items.map image).map some := by
    rw [List.map_map]
    exact List.map_congr_left found
  have whole := Csv.mapM_id_map_some (items.map image)
  rw [← each, List.mapM_map] at whole
  exact whole

/-- The entry of a row under a name. -/
def entryOf (name : String) (row : List (String × Cell)) : Cell :=
  (Entries.get? row name).getD .null

theorem get?_eq_entryOf {name : String} {row : List (String × Cell)}
    (member : name ∈ Entries.names row) : Entries.get? row name = some (entryOf name row) := by
  obtain ⟨cell, found⟩ := Entries.exists_get?_eq_some member
  rw [entryOf, found]
  rfl

/-- Rows that have the names of the first one make a table with a column for each of them. -/
theorem ofRows?_of_shared {first : List (String × Cell)} {rest : List (List (String × Cell))}
    (wide : first ≠ [])
    (shared : ∀ row ∈ first :: rest, Entries.names first ⊆ Entries.names row) :
    ofRows? (first :: rest) =
      some ⟨(Entries.names first).map fun name =>
        (name, settle ((first :: rest).map (entryOf name))), (first :: rest).length⟩ := by
  have gathered : ∀ name ∈ Entries.names first,
      (gather? (first :: rest) name).map (fun cells => (name, settle cells)) =
        some (name, settle ((first :: rest).map (entryOf name))) := by
    intro name member
    rw [gather?, mapM_eq_some fun row inside => get?_eq_entryOf (shared row inside member)]
    rfl
  obtain ⟨entry, others, rfl⟩ := List.exists_cons_of_ne_nil wide
  exact congrArg (Option.map fun columns => Frame.mk columns _) (mapM_eq_some gathered)

theorem get?_map_names {Value : Type} {names : List String} {name : String}
    (image : String → Value) (member : name ∈ names) :
    Entries.get? (names.map fun name => (name, image name)) name = some (image name) := by
  induction names with
  | nil => cases member
  | cons first rest induction =>
      rw [List.map_cons, Entries.get?]
      split
      · next same => rw [same]
      · next other => exact induction ((List.mem_cons.mp member).resolve_left (Ne.symm other))

/-- Rows with the same names make a table that has under each name the entries of the rows. -/
theorem exists_ofRows? {rows : List (List (String × Cell))} (high : rows ≠ [])
    (wide : ∀ row ∈ rows, row ≠ [])
    (shared : ∀ row ∈ rows, ∀ other ∈ rows, Entries.names row ⊆ Entries.names other) :
    ∃ frame, ofRows? rows = some frame ∧ ∀ name, (∀ row ∈ rows, name ∈ Entries.names row) →
      Entries.get? frame.columns name = some (settle (rows.map (entryOf name))) := by
  obtain ⟨first, rest, rfl⟩ := List.exists_cons_of_ne_nil high
  have table := ofRows?_of_shared (wide first List.mem_cons_self) (shared first List.mem_cons_self)
  refine ⟨_, table, fun name member => ?_⟩
  exact get?_map_names (fun name => settle ((first :: rest).map (entryOf name)))
    (member first List.mem_cons_self)

/-- The row of an item: under the name of each column what the item tells in it. -/
def rowOf {Item : Type} (columns : List (String × (Item → Cell))) (item : Item) :
    List (String × Cell) :=
  columns.map fun column => (column.1, column.2 item)

variable {Item : Type} {columns : List (String × (Item → Cell))} {items : List Item}

theorem names_rowOf (columns : List (String × (Item → Cell))) (item : Item) :
    Entries.names (rowOf columns item) = Entries.names columns := by
  rw [Entries.names, rowOf, List.map_map]
  rfl

theorem entryOf_rowOf (distinct : (Entries.names columns).Nodup) {column : String × (Item → Cell)}
    (member : column ∈ columns) (item : Item) :
    entryOf column.1 (rowOf columns item) = column.2 item := by
  rw [← names_rowOf columns item] at distinct
  rw [entryOf, Entries.get?_eq_some_of_mem distinct (List.mem_map.mpr ⟨column, member, rfl⟩)]
  rfl

theorem ofRows?_map_rowOf (distinct : (Entries.names columns).Nodup) (wide : columns ≠ [])
    (high : items ≠ []) :
    ofRows? (items.map (rowOf columns)) =
      some ⟨columns.map fun column => (column.1, settle (items.map column.2)), items.length⟩ := by
  obtain ⟨first, more, rfl⟩ := List.exists_cons_of_ne_nil high
  have shared : ∀ row ∈ (first :: more).map (rowOf columns),
      Entries.names (rowOf columns first) ⊆ Entries.names row := by
    intro row member
    obtain ⟨item, -, rfl⟩ := List.mem_map.mp member
    rw [names_rowOf, names_rowOf]
    exact List.Subset.refl _
  have filled : rowOf columns first ≠ [] := fun empty => wide (List.map_eq_nil_iff.mp empty)
  have table := ofRows?_of_shared filled shared
  rw [names_rowOf, ← List.map_cons, List.length_map, Entries.names, List.map_map] at table
  rw [table]
  refine congrArg (fun columns => some (Frame.mk columns _)) (List.map_congr_left ?_)
  intro column member
  have cells : ((first :: more).map (rowOf columns)).map (entryOf column.1) =
      (first :: more).map column.2 := by
    rw [List.map_map]
    exact List.map_congr_left fun item _ => entryOf_rowOf distinct member item
  exact congrArg (fun cells => (column.1, settle cells)) cells

end Frame

end Selectivity
