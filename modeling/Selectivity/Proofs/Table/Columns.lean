import Mathlib.Data.List.TakeDrop
import Mathlib.Data.List.TakeWhile
import Selectivity.Proofs.Table.Records
import Selectivity.Proofs.Text.Numerals
import Selectivity.Table.Csv

/-!
# Columns of numbers and of names

The digits of a number are never taken for a missing entry, and a column of numbers that are not too
large holds these numbers, also where fields are left empty and the numbers become 64-bit numbers.
A name, on the other hand, is missing if it is one of the words for a missing entry. Names are found
in the rows of a table as they are in their column.
-/

namespace Selectivity

namespace Binary64

theorem roundQuotient_of_dvd {number unit : Nat} (positive : 0 < unit) (divides : unit ∣ number) :
    roundQuotient number unit * unit = number := by
  have none : 2 * (number % unit) < unit := by
    rw [Nat.mod_eq_zero_of_dvd divides]
    exact positive
  rw [roundQuotient, if_pos none]
  exact Nat.div_mul_cancel divides

theorem bitLength_le {number bits : Nat} (small : number < 2 ^ bits) : bitLength number ≤ bits := by
  rw [bitLength]
  split
  · exact Nat.zero_le bits
  · next nonzero => exact (Nat.log2_lt nonzero).mpr small

/-- A number of at most as many bits as there are significant ones is not rounded, and neither is
the first number with one bit more. -/
theorem round_eq_self {number : Nat} (small : number ≤ 2 ^ precision) : round number = number := by
  refine roundQuotient_of_dvd (Nat.pow_pos (by decide)) ?_
  rcases Nat.lt_or_eq_of_le small with less | rfl
  · rw [Nat.sub_eq_zero_of_le (bitLength_le less)]
    exact Nat.one_dvd number
  · decide

theorem roundQuotient_le (numerator denominator : Nat) :
    roundQuotient numerator denominator ≤ numerator / denominator + 1 := by
  rw [roundQuotient]
  split
  · exact Nat.le_succ _
  · split <;> omega

theorem round_le_double (number : Nat) : round number ≤ 2 * number := by
  by_cases none : number = 0
  · rw [none, round_eq_self (Nat.zero_le _)]
  · have fewer : bitLength number - precision ≤ number.log2 := by
      rw [bitLength, if_neg none, precision]
      omega
    have unit : Nat.pow 2 (bitLength number - precision) ≤ number :=
      Nat.le_trans (Nat.pow_le_pow_right (by decide) fewer) (Nat.log2_self_le none)
    have whole := Nat.div_mul_le_self number (Nat.pow 2 (bitLength number - precision))
    calc
      round number ≤ (number / Nat.pow 2 (bitLength number - precision) + 1) *
          Nat.pow 2 (bitLength number - precision) :=
        Nat.mul_le_mul_right _ (roundQuotient_le _ _)
      _ ≤ 2 * number := by
        rw [Nat.add_mul, Nat.one_mul]
        omega

theorem whole?_ofInt_natCast {number : Nat} (small : number ≤ 2 ^ precision) :
    (ofInt number).whole? = some (number : Int) := by
  rw [ofInt, if_neg (Int.not_lt.mpr (Int.natCast_nonneg number)), Int.natAbs_natCast,
    round_eq_self small, whole?]
  exact congrArg some (Int.tdiv_one _)

theorem whole?_ofInt_of_lt_one {number : Int} (few : number < 1) :
    ∃ whole : Int, (ofInt number).whole? = some whole ∧ whole < 1 ∧
      whole.natAbs = round number.natAbs := by
  by_cases negative : number < 0
  · rw [ofInt, if_pos negative, whole?]
    refine ⟨_, congrArg some (Int.tdiv_one _), ?_, ?_⟩
    · omega
    · rw [Int.natAbs_neg, Int.natAbs_natCast]
  · obtain rfl : number = ((0 : Nat) : Int) := by omega
    exact ⟨_, whole?_ofInt_natCast (Nat.zero_le _), by decide, rfl⟩

end Binary64

/-- The entry is a text or misses. -/
def Cell.IsName (cell : Cell) : Prop :=
  cell = .missing ∨ ∃ text, cell = .text text

namespace Cell.IsName

variable {cell : Cell}

theorem fillNull (name : cell.IsName) : Frame.fillNull cell = cell := by
  rcases name with rfl | ⟨text, rfl⟩ <;> rfl

theorem toReal (name : cell.IsName) : Frame.toReal cell = cell := by
  rcases name with rfl | ⟨text, rfl⟩ <;> rfl

theorem not_compound (name : cell.IsName) : cell.isCompound = false := by
  rcases name with rfl | ⟨text, rfl⟩ <;> rfl

end Cell.IsName

namespace Csv

/-- The field of a number, or an empty field. -/
def countField : Option Nat → Field
  | some number => Text.digits number
  | none => []

/-- Every word for a missing entry is empty or has a character that is no digit. -/
theorem missingWords_not_digits : ∀ word ∈ missingWords,
    (word.toList.isEmpty || !word.toList.all Text.isDigit) = true :=
  List.all_eq_true.mp (by decide +kernel)

theorem digits_not_missing (number : Nat) :
    String.ofList (Text.digits number) ∉ missingWords := by
  intro member
  have digits : (Text.digits number).all Text.isDigit = true :=
    List.all_eq_true.mpr Text.isDigit_of_mem_digits
  have empty := missingWords_not_digits _ member
  rw [String.toList_ofList, digits, Bool.not_true, Bool.or_false] at empty
  rcases Text.digits_cases number with zero | ⟨first, rest, split, -⟩
  · rw [zero] at empty
    cases empty
  · rw [split] at empty
    cases empty

theorem fieldText_countField (count : Option Nat) :
    fieldText (countField count) = count.map fun number => String.ofList (Text.digits number) := by
  cases count with
  | none => rfl
  | some number =>
      exact if_neg fun missing => digits_not_missing number (List.contains_iff_mem.mp missing)

theorem splitSign_of_isDigit {first : Char} (digit : Text.isDigit first = true)
    (rest : List Char) : Text.splitSign (first :: rest) = (false, first :: rest) := by
  unfold Text.splitSign
  split
  · next here =>
      cases here
      cases digit
  · next here =>
      cases here
      cases digit
  · rfl

theorem isAsciiBlank_of_isDigit {character : Char} (digit : Text.isDigit character = true) :
    Decimal.isAsciiBlank character = false := by
  rw [Text.isDigit, Bool.and_eq_true, decide_eq_true_eq, decide_eq_true_eq] at digit
  have above : 0x30 ≤ character.toNat := digit.1
  have noSpace : character ≠ ' ' := by
    rintro rfl
    exact absurd above (by decide)
  rw [Decimal.isAsciiBlank, beq_eq_false_iff_ne.mpr noSpace, Bool.false_or]
  exact Bool.and_eq_false_iff.mpr (Or.inr (decide_eq_false (by omega)))

theorem splitInteger_digits (number : Nat) :
    splitInteger (Text.digits number) = (false, Text.digits number, []) := by
  have decimal : ∀ character ∈ Text.digits number, Text.isDigit character = true :=
    Text.isDigit_of_mem_digits
  obtain ⟨first, rest, split⟩ : ∃ first rest, Text.digits number = first :: rest := by
    rcases Text.digits_cases number with zero | ⟨first, rest, split, -⟩
    · exact ⟨'0', [], zero⟩
    · exact ⟨first, rest, split⟩
  have own : Text.isDigit first = true := decimal first (split ▸ List.mem_cons_self)
  have kept : (Text.digits number).dropWhile Decimal.isAsciiBlank = Text.digits number := by
    rw [split, List.dropWhile_cons_of_neg]
    exact Bool.eq_false_iff.mp (isAsciiBlank_of_isDigit own)
  have signless : Text.splitSign (Text.digits number) = (false, Text.digits number) := by
    rw [split]
    exact splitSign_of_isDigit own rest
  rw [splitInteger, kept, signless]
  dsimp only
  rw [List.span_eq_takeWhile_dropWhile, List.takeWhile_eq_self_iff.mpr decimal,
    List.dropWhile_eq_nil_iff.mpr decimal]

theorem signedWord_countField {count : Option Nat}
    (small : ∀ number ∈ count, number ≤ 2 ^ Binary64.precision) :
    signedWord (fieldText (countField count)) = .ok (count.map fun number => (number : Int)) := by
  rw [fieldText_countField]
  cases count with
  | none => rfl
  | some number =>
      have least : ¬ ((number : Int) < leastSigned ∨ mostSigned < (number : Int)) := by
        have bound := small number rfl
        rw [leastSigned, mostSigned, WordKind.signedLimit]
        rw [Binary64.precision] at bound
        omega
      have read : wordBetween leastSigned mostSigned (Text.digits number) = .ok (number : Int) := by
        rw [wordBetween, splitInteger_digits]
        rcases Text.digits_cases number with zero | ⟨first, rest, split, -⟩
        all_goals
          have value := Text.digitsValue_digits number
          first | rw [zero] at value ⊢ | rw [split] at value ⊢
          simp only [value, Text.signed, Bool.false_eq_true, if_false, least, List.all_nil,
            Bool.not_true]
      rw [Option.map_some, signedWord, String.toList_ofList, read]
      rfl

/-- The entry of a number or of an empty field, in a column with or without empty fields. -/
def countCell (gaps : Bool) : Option Nat → Cell
  | some number => if gaps then .real (Binary64.ofInt number) else .integer number
  | none => .missing

theorem count_countCell (gaps : Bool) {number : Nat} (small : number ≤ 2 ^ Binary64.precision) :
    (countCell gaps (some number)).count = .ok (number : Int) := by
  cases gaps with
  | false => rfl
  | true =>
      rw [countCell, if_pos rfl, Cell.count, Binary64.whole?_ofInt_natCast small]

theorem fillNull_countCell (gaps : Bool) (count : Option Nat) :
    Frame.fillNull (countCell gaps count) = countCell gaps count := by
  cases count with
  | none => rfl
  | some number => cases gaps <;> rfl

theorem mapM_id_eq_none {Value : Type} {items : List (Option Value)} (gap : none ∈ items) :
    items.mapM id = none := by
  induction items with
  | nil => cases gap
  | cons item rest induction =>
      rw [List.mapM_cons]
      cases item with
      | none => rfl
      | some value =>
          rw [induction ((List.mem_cons.mp gap).resolve_left nofun)]
          rfl

theorem mapM_id_map_some {Value : Type} (values : List Value) :
    (values.map some).mapM id = some values := by
  rw [List.mapM_map]
  exact (List.mapM_pure (f := id)).trans (congrArg some (List.map_id values))

theorem exists_map_some {Value : Type} {items : List (Option Value)}
    (full : items.any Option.isNone = false) : ∃ values : List Value, items = values.map some := by
  induction items with
  | nil => exact ⟨[], rfl⟩
  | cons item rest induction =>
      rw [List.any_cons, Bool.or_eq_false_iff] at full
      obtain ⟨values, rfl⟩ := induction full.2
      cases item with
      | none => cases full.1
      | some value => exact ⟨value :: values, rfl⟩

theorem signedColumn_counts (counts : List (Option Nat)) :
    signedColumn (counts.map fun count => count.map fun number => (number : Int)) =
      counts.map (countCell (counts.any Option.isNone)) := by
  cases gaps : counts.any Option.isNone with
  | true =>
      obtain ⟨count, member, absent⟩ := List.any_eq_true.mp gaps
      rw [Option.isNone_iff_eq_none] at absent
      subst absent
      rw [signedColumn, mapM_id_eq_none (List.mem_map.mpr ⟨none, member, rfl⟩), List.map_map]
      refine List.map_congr_left fun count _ => ?_
      cases count <;> rfl
  | false =>
      obtain ⟨numbers, rfl⟩ := exists_map_some gaps
      have words : (numbers.map some).map (fun count => count.map fun number => (number : Int)) =
          (numbers.map fun number : Nat => (number : Int)).map some := by
        rw [List.map_map, List.map_map]
        rfl
      rw [words, signedColumn, mapM_id_map_some]
      change (numbers.map fun number : Nat => (number : Int)).map Cell.integer = _
      rw [List.map_map, List.map_map]
      rfl

theorem typedColumn_counts {Item : Type} (count : Item → Option Nat) {items : List Item}
    (small : ∀ item ∈ items, ∀ number ∈ count item, number ≤ 2 ^ Binary64.precision) :
    typedColumn (items.map fun item => fieldText (countField (count item))) =
      items.map fun item => countCell (items.any fun item => (count item).isNone) (count item) := by
  have words : (items.map fun item => fieldText (countField (count item))).mapM signedWord =
      .ok ((items.map count).map fun count => count.map fun number => (number : Int)) := by
    have each : (items.map fun item => fieldText (countField (count item))).map signedWord =
        (items.map count).map fun count => .ok (count.map fun number => (number : Int)) := by
      rw [List.map_map, List.map_map]
      exact List.map_congr_left fun item member => signedWord_countField (small item member)
    have whole := List.mapM_map (f := signedWord) (g := id)
      (l := items.map fun item => fieldText (countField (count item)))
    rw [each, List.mapM_map] at whole
    exact whole.symm.trans List.mapM_pure
  rw [typedColumn, words]
  refine (signedColumn_counts (items.map count)).trans ?_
  rw [List.map_map, List.any_map]
  rfl

/-- Is a name one of the words for a missing entry? -/
def isMissingWord (name : String) : Bool :=
  missingWords.contains name

/-- The entry of a name. -/
def nameCell (name : String) : Cell :=
  if isMissingWord name then .missing else .text name

theorem isName_nameCell (name : String) : (nameCell name).IsName := by
  rw [nameCell]
  split
  · exact Or.inl rfl
  · exact Or.inr ⟨name, rfl⟩

theorem textColumn_names {Item : Type} (name : Item → String) (items : List Item) :
    textColumn (items.map fun item => fieldText (name item).toList) =
      items.map fun item => nameCell (name item) := by
  rw [textColumn, List.map_map]
  refine List.map_congr_left fun item _ => ?_
  rw [Function.comp_apply, fieldText, String.ofList_toList, nameCell, isMissingWord]
  cases missingWords.contains (name item) <;> rfl

theorem names_of_textColumn (fields : List (Option String)) :
    ∀ cell ∈ textColumn fields, cell.IsName := by
  refine List.forall_mem_map.mpr fun field _ => ?_
  cases field with
  | none => exact Or.inl rfl
  | some text => exact Or.inr ⟨text, rfl⟩

theorem dropMark_eq_self {text : List Char} (noMark : text.head? ≠ some '\uFEFF') :
    dropMark text = text := by
  cases text with
  | nil => rfl
  | cons character rest => exact if_neg fun mark => noMark (congrArg some mark)

/-- A printed table whose rows are as long as its first record is read column by column. -/
theorem frame_of_prints (isText : String → Bool) {header : Record} {rows : List Record}
    {text : List Char} (prints : Prints (header :: rows) text)
    (plain : ∀ record ∈ header :: rows, record.Plain)
    (even : ∀ row ∈ rows, row.length = header.length)
    (noMark : text.head? ≠ some '\uFEFF') :
    frame isText text = .ok ⟨columns isText header 0 rows, rows.length⟩ := by
  have labels : (rows.head?.getD []).length - header.length = 0 := by
    cases rows with
    | nil => exact Nat.zero_sub _
    | cons row rest => exact Nat.sub_eq_zero_of_le (even row List.mem_cons_self).le
  have noneLonger : ¬ (rows.any fun row => header.length + 0 < row.length) = true := by
    rw [List.any_eq_true]
    rintro ⟨row, member, longer⟩
    exact absurd (even row member).le (Nat.not_le.mpr (of_decide_eq_true longer))
  rw [frame, dropMark_eq_self noMark, records_of_prints prints plain]
  dsimp only
  rw [labels, if_neg noneLonger]

theorem names_of_frame {isText : String → Bool} {text : List Char} {frame : Frame}
    (table : Csv.frame isText text = .ok frame) {name : String} {cells : List Cell}
    (asked : isText name = true) (found : Entries.get? frame.columns name = some cells) :
    ∀ cell ∈ cells, cell.IsName := by
  rw [Csv.frame] at table
  split at table
  · cases table
  · cases table
  · next header rows _ =>
      simp only at table
      split at table
      · cases table
      · cases table
        obtain ⟨index, within, same⟩ := List.mem_mapIdx.mp (Entries.get?_eq_some_mem found)
        obtain ⟨rfl, rfl⟩ := Prod.mk.inj same
        rw [if_pos (by rw [asked, Bool.or_true])]
        exact names_of_textColumn _

end Csv

namespace Frame

variable {frame : Frame} {cells : List Cell}

theorem wordKind?_of_text {text : String} (member : .text text ∈ cells) :
    wordKind? cells = none := by
  have fails {holds : Cell → Bool} (other : holds (.text text) = false) :
      ¬ cells.all holds = true := by
    intro all
    rw [List.all_eq_true.mp all _ member] at other
    cases other
  rw [wordKind?, if_neg (fails rfl), if_neg (fails rfl), if_neg (fails rfl)]

theorem rowKind?_of_text {name text : String} (column : (name, cells) ∈ frame.columns)
    (member : .text text ∈ cells) : frame.rowKind? = none := by
  have gap : none ∈ frame.columns.map fun column => wordKind? column.2 :=
    List.mem_map.mpr ⟨_, column, wordKind?_of_text member⟩
  have none := Csv.mapM_id_eq_none gap
  rw [List.mapM_map] at none
  exact congrArg (Option.bind · WordKind.common?) none

/-- Entries are found in their rows as they are in their column, if they are no empty values, and no
whole numbers where rows hold 64-bit numbers. -/
theorem cellsInRows_eq_self
    (real : frame.rowKind? = some .real → ∀ cell ∈ cells, toReal cell = cell)
    (kept : ∀ cell ∈ cells, fillNull cell = cell) : frame.cellsInRows cells = cells := by
  rw [cellsInRows]
  split
  · next kind => exact (List.map_congr_left (real kind)).trans (List.map_id cells)
  · refine List.ext_getElem List.length_mapIdx fun index _ within => ?_
    rw [List.getElem_mapIdx, cellInRow]
    split
    · exact kept _ (List.getElem_mem within)
    · rfl

theorem cellsInRows_of_names (names : ∀ cell ∈ cells, cell.IsName) :
    frame.cellsInRows cells = cells :=
  cellsInRows_eq_self (fun _ cell member => (names cell member).toReal)
    fun cell member => (names cell member).fillNull

end Frame

end Selectivity
