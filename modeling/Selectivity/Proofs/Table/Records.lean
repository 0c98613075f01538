import Selectivity.Table.Csv.Record

/-!
# Printed records

Records whose fields need no quotes can be written with commas between the fields, one record to a
line. Lines may end in any of the three ways, and the last one need not be ended. Such a text is
read as the records.
-/

namespace Selectivity.Csv

/-- A character that stands for itself in a field without quotes. -/
def isPlain (character : Char) : Bool :=
  !(character == ',' || character == '"' || character == '\n' || character == '\r')

/-- A record that needs no quotes, and whose line starts with its first field. -/
structure Record.Plain (record : Record) : Prop where
  fields : ∀ field ∈ record, ∀ character ∈ field, isPlain character = true
  start : ∃ first field others, record = (first :: field) :: others ∧ isLineBlank first = false

/-- The fields of a record with commas between them. -/
def Record.line : Record → List Char
  | [] => []
  | [field] => field
  | field :: others => field ++ ',' :: line others

theorem Record.line_cons_cons (field next : Field) (others : List Field) :
    Record.line (field :: next :: others) = field ++ ',' :: Record.line (next :: others) :=
  rfl

/-- The ways in which a line can end. -/
def lineEnds : List (List Char) :=
  [['\n'], ['\r'], ['\r', '\n']]

/-- A text has records on its lines. -/
inductive Prints : List Record → List Char → Prop where
  | nil : Prints [] []
  | last (record : Record) : Prints [record] record.line
  | line (record : Record) {ending text : List Char} {others : List Record}
      (ends : ending ∈ lineEnds) (rest : Prints others text) :
      Prints (record :: others) (record.line ++ (ending ++ text))

theorem readRecord_of_plain {character : Char} (plain : isPlain character = true)
    {place : FieldPlace} (unquoted : place ≠ .quoted) (characters : List Char)
    (fields : List Field) (rest : List Char) :
    readRecord place characters fields (character :: rest) =
      readRecord .plain (character :: characters) fields rest := by
  rw [isPlain, Bool.not_eq_true', Bool.or_eq_false_iff, Bool.or_eq_false_iff,
    Bool.or_eq_false_iff] at plain
  obtain ⟨⟨⟨noComma, noQuote⟩, noFeed⟩, noReturn⟩ := plain
  rw [readRecord, if_neg unquoted, if_neg (beq_eq_false_iff_ne.mp noFeed),
    if_neg (beq_eq_false_iff_ne.mp noReturn), if_neg (beq_eq_false_iff_ne.mp noComma),
    if_neg fun quote => beq_eq_false_iff_ne.mp noQuote quote.1,
    if_neg fun quote => beq_eq_false_iff_ne.mp noQuote quote.1]

theorem readRecord_field {field : Field}
    (plain : ∀ character ∈ field, isPlain character = true) {place : FieldPlace}
    (unquoted : place ≠ .quoted) (characters : List Char) (fields : List Field)
    (rest : List Char) :
    ∃ place', place' ≠ .quoted ∧ readRecord place characters fields (field ++ rest) =
      readRecord place' (field.reverse ++ characters) fields rest := by
  induction field generalizing place characters with
  | nil => exact ⟨place, unquoted, rfl⟩
  | cons character others induction =>
      have first := readRecord_of_plain (plain character List.mem_cons_self) unquoted characters
        fields (others ++ rest)
      obtain ⟨later, free, same⟩ := induction
        (fun other member => plain other (List.mem_cons_of_mem character member))
        (show FieldPlace.plain ≠ .quoted by decide) (character :: characters)
      refine ⟨later, free, ?_⟩
      rw [List.cons_append, first, same, List.reverse_cons, List.append_assoc,
        List.singleton_append]

theorem readRecord_comma {place : FieldPlace} (unquoted : place ≠ .quoted)
    (characters : List Char) (fields : List Field) (rest : List Char) :
    readRecord place characters fields (',' :: rest) =
      readRecord .start [] (characters.reverse :: fields) rest := by
  rw [readRecord, if_neg unquoted, if_neg (by decide), if_neg (by decide), if_pos rfl]

theorem readRecord_line {record : Record} (nonempty : record ≠ [])
    (plain : ∀ field ∈ record, ∀ character ∈ field, isPlain character = true)
    (fields : List Field) (rest : List Char) :
    ∃ place characters before, place ≠ .quoted ∧
      closeRecord characters before = fields.reverse ++ record ∧
      readRecord .start [] fields (record.line ++ rest) =
        readRecord place characters before rest := by
  have start : FieldPlace.start ≠ .quoted := by decide
  induction record generalizing fields with
  | nil => exact absurd rfl nonempty
  | cons field others induction =>
      cases others with
      | nil =>
          obtain ⟨place, unquoted, same⟩ :=
            readRecord_field (plain field List.mem_cons_self) start [] fields rest
          refine ⟨place, _, _, unquoted, ?_, same⟩
          rw [List.append_nil, closeRecord, List.reverse_reverse, List.reverse_cons]
      | cons next others =>
          obtain ⟨after, unquoted, same⟩ := readRecord_field (plain field List.mem_cons_self)
            start [] fields (',' :: ((Record.line (next :: others)) ++ rest))
          obtain ⟨place, characters, before, free, closed, later⟩ :=
            induction (List.cons_ne_nil next others)
              (fun other member => plain other (List.mem_cons_of_mem field member))
              (field :: fields)
          refine ⟨place, characters, before, free, ?_, ?_⟩
          · rw [closed, List.reverse_cons, List.append_assoc, List.singleton_append]
          · rw [Record.line_cons_cons, List.append_assoc, List.cons_append, same,
              readRecord_comma unquoted, List.append_nil, List.reverse_reverse, later]

/-- A line ends a record, unless what follows is a part of how the line ends. -/
theorem readRecord_end {place : FieldPlace} (unquoted : place ≠ .quoted)
    (characters : List Char) (fields : List Field) {ending text : List Char}
    (ends : ending ∈ lineEnds) (noFeed : text.head? ≠ some '\n') :
    readRecord place characters fields (ending ++ text) =
      .ok (closeRecord characters fields, text) := by
  have kept : dropFeed text = text := by
    unfold dropFeed
    split
    · exact absurd rfl noFeed
    · rfl
  rw [lineEnds, List.mem_cons, List.mem_cons, List.mem_singleton] at ends
  rcases ends with rfl | rfl | rfl
  · rw [List.singleton_append, readRecord, if_neg unquoted, if_pos rfl]
  · rw [List.singleton_append, readRecord, if_neg unquoted, if_neg (by decide), if_pos rfl, kept]
  · rw [List.cons_append, readRecord, if_neg unquoted, if_neg (by decide), if_pos rfl]
    rfl

theorem readRecord_nil {place : FieldPlace} (unquoted : place ≠ .quoted)
    (characters : List Char) (fields : List Field) :
    readRecord place characters fields [] = .ok (closeRecord characters fields, []) := by
  rw [readRecord, if_neg unquoted]

namespace Record.Plain

variable {record : Record}

theorem ne_nil (plain : record.Plain) : record ≠ [] := by
  obtain ⟨first, field, others, rfl, -⟩ := plain.start
  exact List.cons_ne_nil _ _

theorem line_eq_cons (plain : record.Plain) :
    ∃ first rest, record.line = first :: rest ∧ isPlain first = true ∧
      isLineBlank first = false := by
  obtain ⟨first, field, others, rfl, solid⟩ := plain.start
  have own := plain.fields _ List.mem_cons_self first List.mem_cons_self
  cases others with
  | nil => exact ⟨first, field, rfl, own, solid⟩
  | cons next others => exact ⟨first, _, rfl, own, solid⟩

theorem recordStart?_line (plain : record.Plain) (rest : List Char) :
    recordStart? (record.line ++ rest) .start (record.line ++ rest) =
      some (record.line ++ rest) := by
  obtain ⟨first, others, line, own, solid⟩ := plain.line_eq_cons
  rw [isPlain, Bool.not_eq_true', Bool.or_eq_false_iff, Bool.or_eq_false_iff,
    Bool.or_eq_false_iff] at own
  rw [line, List.cons_append, recordStart?, if_neg (beq_eq_false_iff_ne.mp own.1.2),
    if_neg fun comma => beq_eq_false_iff_ne.mp own.1.1.1 comma.1,
    if_neg (beq_eq_false_iff_ne.mp own.2), if_neg (Bool.eq_false_iff.mp solid),
    if_neg (by decide)]

end Record.Plain

theorem Prints.exists_append {record : Record} {others : List Record} {text : List Char}
    (prints : Prints (record :: others) text) : ∃ rest, text = record.line ++ rest := by
  cases prints with
  | last => exact ⟨[], (List.append_nil _).symm⟩
  | line => exact ⟨_, rfl⟩

theorem Prints.head?_ne_feed {printed : List Record} {text : List Char}
    (prints : Prints printed text) (plain : ∀ record ∈ printed, record.Plain) :
    text.head? ≠ some '\n' := by
  cases printed with
  | nil =>
      cases prints
      exact nofun
  | cons record others =>
      obtain ⟨rest, rfl⟩ := prints.exists_append
      obtain ⟨first, following, line, noFeed, -⟩ :=
        (plain record List.mem_cons_self).line_eq_cons
      rw [line, List.cons_append, List.head?_cons]
      rintro ⟨⟩
      cases noFeed

theorem records_nil : records [] = .ok [] := by
  rw [records]
  rfl

theorem records_cons {text start rest : List Char} {record : Record}
    (search : recordStart? text .start text = some start)
    (reading : readRecord .start [] [] start = .ok (record, rest)) :
    records text = (records rest).map (record :: ·) := by
  rw [records]
  split
  · next none =>
      rw [search] at none
      cases none
  · next found here =>
      rw [search] at here
      cases here
      split
      · next fault =>
          rw [reading] at fault
          cases fault
      · next same =>
          rw [reading] at same
          cases same
          rfl

/-- A text with plain records on its lines is read as the records. -/
theorem records_of_prints {printed : List Record} {text : List Char}
    (prints : Prints printed text) (plain : ∀ record ∈ printed, record.Plain) :
    records text = .ok printed := by
  induction prints with
  | nil => exact records_nil
  | last record =>
      have own := plain record List.mem_cons_self
      obtain ⟨place, characters, before, unquoted, closed, same⟩ :=
        readRecord_line own.ne_nil own.fields [] []
      have search := own.recordStart?_line []
      rw [readRecord_nil unquoted, closed] at same
      rw [List.append_nil] at same search
      rw [records_cons search same, records_nil]
      rfl
  | line record ends rest induction =>
      have own := plain record List.mem_cons_self
      have others : ∀ other ∈ _, Record.Plain other :=
        fun other member => plain other (List.mem_cons_of_mem record member)
      obtain ⟨place, characters, before, unquoted, closed, same⟩ :=
        readRecord_line own.ne_nil own.fields [] _
      rw [readRecord_end unquoted characters before ends (rest.head?_ne_feed others),
        closed] at same
      rw [records_cons (own.recordStart?_line _) same, induction others]
      rfl

end Selectivity.Csv
