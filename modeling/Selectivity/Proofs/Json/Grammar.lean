import Mathlib.Data.List.TakeDrop
import Mathlib.Data.List.TakeWhile
import Selectivity.Json.Reader

/-!
# JSON texts

A value can be written as a text in many ways: with blanks between its parts, with characters that
stand for themselves or are escaped, and with members of one name several times. Every such text is
read as the value. Numbers that are not whole are left out here.
-/

namespace Selectivity.Json

/-- A blank that may stand between the parts of a value. -/
def isGap (character : Char) : Bool :=
  character == ' ' || character == '\t' || character == '\n' || character == '\r'

/-- Blanks between the parts of a value. -/
def Gap (text : List Char) : Prop :=
  ∀ character ∈ text, isGap character = true

instance (text : List Char) : Decidable (Gap text) :=
  List.decidableBAll (fun character => isGap character = true) text

/-- The first unit of the surrogate pair for a character beyond the first plane. -/
def highUnit (character : Char) : Nat :=
  0xD800 + (character.toNat - 0x10000) / 0x400

/-- The second unit of that pair. -/
def lowUnit (character : Char) : Nat :=
  0xDC00 + (character.toNat - 0x10000) % 0x400

/-- A character is spelled by itself, by a letter behind a backslash, by its 16-bit unit, or by the
two units of a surrogate pair. -/
inductive Spells (character : Char) : List Char → Prop where
  | plain (visible : 0x20 ≤ character.toNat) (noQuote : character ≠ '"')
      (noBackslash : character ≠ '\\') : Spells character [character]
  | letter {letter : Char} (escaped : escapedChar? letter = some character) :
      Spells character ['\\', letter]
  | unit {first second third fourth : Char}
      (value : unitValue? first second third fourth = some character.toNat) :
      Spells character ['\\', 'u', first, second, third, fourth]
  | pair {first second third fourth fifth sixth seventh eighth : Char}
      (supplementary : 0x10000 ≤ character.toNat)
      (high : unitValue? first second third fourth = some (highUnit character))
      (low : unitValue? fifth sixth seventh eighth = some (lowUnit character)) :
      Spells character
        ['\\', 'u', first, second, third, fourth, '\\', 'u', fifth, sixth, seventh, eighth]

/-- Characters are spelled one after the other. -/
inductive SpellsAll : List Char → List Char → Prop where
  | nil : SpellsAll [] []
  | cons {character : Char} {rest text more : List Char} (first : Spells character text)
      (others : SpellsAll rest more) : SpellsAll (character :: rest) (text ++ more)

/-- A text in quotes, behind the opening one. -/
inductive Quoted (value : String) : List Char → Prop where
  | closed {text : List Char} (spelled : SpellsAll value.toList text) :
      Quoted value (text ++ ['"'])

/-- The digits of a whole number that starts with a zero only if it is one. -/
structure Whole (limit : Option Nat) (digits : List Char) : Prop where
  decimal : ∀ character ∈ digits, Text.isDigit character = true
  start : digits = ['0'] ∨ ∃ first rest, digits = first :: rest ∧ first ≠ '0'
  short : Text.exceeds limit digits = false

mutual

/-- A text is one way to write a value. -/
inductive Writes (limit : Option Nat) : Json → List Char → Prop where
  | nothing : Writes limit .null "null".toList
  | yes : Writes limit (.boolean true) "true".toList
  | no : Writes limit (.boolean false) "false".toList
  | natural {digits : List Char} (whole : Whole limit digits) :
      Writes limit (.integer (Text.digitsValue digits)) digits
  | negative {digits : List Char} (whole : Whole limit digits) :
      Writes limit (.integer (-(Text.digitsValue digits : Int))) ('-' :: digits)
  | string {value : String} {text : List Char} (quoted : Quoted value text) :
      Writes limit (.string value) ('"' :: text)
  | emptyArray {gap : List Char} (blank : Gap gap) : Writes limit (.array []) ('[' :: gap ++ [']'])
  | array {items : List Json} {gap text : List Char} (blank : Gap gap)
      (written : WritesItems limit items text) : Writes limit (.array items) ('[' :: gap ++ text)
  | emptyObject {gap : List Char} (blank : Gap gap) :
      Writes limit (.object []) ('\x7b' :: gap ++ ['\x7d'])
  /-- Of members of one name the last one counts, at the place of the first one. -/
  | object {members : List (String × Json)} {gap text : List Char} (blank : Gap gap)
      (written : WritesMembers limit members text) :
      Writes limit (.object (Entries.ofList members)) ('\x7b' :: gap ++ text)

/-- The items of an array that is not empty, and its closing bracket. -/
inductive WritesItems (limit : Option Nat) : List Json → List Char → Prop where
  | last {item : Json} {text gap : List Char} (written : Writes limit item text)
      (blank : Gap gap) : WritesItems limit [item] (text ++ (gap ++ [']']))
  | next {item : Json} {items : List Json} {text before after more : List Char}
      (written : Writes limit item text) (blankBefore : Gap before) (blankAfter : Gap after)
      (others : WritesItems limit items more) :
      WritesItems limit (item :: items) (text ++ (before ++ ',' :: (after ++ more)))

/-- The members of an object that is not empty, and its closing brace. -/
inductive WritesMembers (limit : Option Nat) : List (String × Json) → List Char → Prop where
  | last {name : String} {value : Json} {quoted before after text gap : List Char}
      (named : Quoted name quoted) (blankBefore : Gap before) (blankAfter : Gap after)
      (written : Writes limit value text) (blank : Gap gap) :
      WritesMembers limit [(name, value)]
        ('"' :: quoted ++ (before ++ ':' :: (after ++ (text ++ (gap ++ ['\x7d'])))))
  | next {name : String} {value : Json} {members : List (String × Json)}
      {quoted before after text behind next more : List Char}
      (named : Quoted name quoted) (blankBefore : Gap before) (blankAfter : Gap after)
      (written : Writes limit value text) (blankBehind : Gap behind) (blankNext : Gap next)
      (others : WritesMembers limit members more) :
      WritesMembers limit ((name, value) :: members)
        ('"' :: quoted ++
          (before ++ ':' :: (after ++ (text ++ (behind ++ ',' :: (next ++ more))))))

end

/-- A text is one way to write a value, with blanks around it. -/
inductive WritesFile (limit : Option Nat) (value : Json) : List Char → Prop where
  | text {before text after : List Char} (blankBefore : Gap before)
      (written : Writes limit value text) (blankAfter : Gap after) :
      WritesFile limit value (before ++ (text ++ after))

/-- A text that starts with no blank. -/
inductive Starts : List Char → Prop where
  | solid {first : Char} {rest : List Char} (solid : isGap first = false) :
      Starts (first :: rest)

theorem skipBlanks_append {gap : List Char} (blank : Gap gap) (text : List Char) :
    skipBlanks (gap ++ text) = skipBlanks text :=
  List.dropWhile_append_of_pos blank

theorem Starts.skipBlanks_eq {text : List Char} (starts : Starts text) :
    skipBlanks text = text := by
  cases starts with
  | solid solid => exact List.dropWhile_cons_of_neg (ne_true_of_eq_false solid)

theorem skipBlanks_gap {gap text : List Char} (blank : Gap gap) (starts : Starts text) :
    skipBlanks (gap ++ text) = text := by
  rw [skipBlanks_append blank, starts.skipBlanks_eq]

theorem not_surrogate (character : Char) :
    isHighSurrogate character.toNat = false ∧ isLowSurrogate character.toNat = false := by
  have valid := character.valid
  rw [isHighSurrogate, isLowSurrogate]
  simp only [Bool.and_eq_false_iff, decide_eq_false_iff_not, Nat.not_le]
  rcases valid with below | ⟨above, -⟩
  · exact ⟨Or.inl below, Or.inl (Nat.lt_trans below (by decide))⟩
  · exact ⟨Or.inr (Nat.lt_trans (by decide) above), Or.inr above⟩

theorem loneUnit_toNat (character : Char) : loneUnit character.toNat = character := by
  obtain ⟨high, low⟩ := not_surrogate character
  rw [loneUnit, high, low]
  exact Char.ofNat_toNat character

/-- The two units of a character beyond the first plane are read as that character. -/
theorem joined_units {character : Char} (supplementary : 0x10000 ≤ character.toNat) :
    isHighSurrogate (highUnit character) = true ∧ isLowSurrogate (lowUnit character) = true ∧
      Char.ofNat (0x10000 + (highUnit character - 0xD800) * 0x400 +
        (lowUnit character - 0xDC00)) = character := by
  have bounded : character.toNat < 0x110000 := by
    rcases character.valid with below | ⟨-, below⟩
    · exact Nat.lt_trans below (by decide)
    · exact below
  have same : 0x10000 + (highUnit character - 0xD800) * 0x400 + (lowUnit character - 0xDC00) =
      character.toNat := by
    unfold highUnit lowUnit
    omega
  refine ⟨?_, ?_, ?_⟩
  · rw [isHighSurrogate, highUnit, Bool.and_eq_true, decide_eq_true_iff, decide_eq_true_iff]
    omega
  · rw [isLowSurrogate, lowUnit, Bool.and_eq_true, decide_eq_true_iff, decide_eq_true_iff]
    omega
  · rw [same, Char.ofNat_toNat]

theorem readPieces?_letter {letter character : Char}
    (escaped : escapedChar? letter = some character) {rest after : List Char}
    {pieces : List Piece} (read : readPieces? rest = some (pieces, after)) :
    readPieces? ('\\' :: letter :: rest) = some (.plain character :: pieces, after) := by
  have other : letter ≠ 'u' := by
    rintro rfl
    cases escaped
  rw [readPieces?.eq_3]
  · rw [escaped, read]
  · exact fun first second third fourth more same _ => other same

theorem Spells.read {character : Char} {text : List Char} (spells : Spells character text)
    {rest after : List Char} {pieces : List Piece}
    (read : readPieces? rest = some (pieces, after)) :
    ∃ more, readPieces? (text ++ rest) = some (more, after) ∧
      joinPieces more = character :: joinPieces pieces := by
  cases spells with
  | plain visible noQuote noBackslash =>
      refine ⟨.plain character :: pieces, ?_, rfl⟩
      have inside : ¬ character.toNat < 0x20 := Nat.not_lt.mpr visible
      rw [List.singleton_append, readPieces?, if_neg inside, read]
      · exact noQuote
      · exact fun _ _ _ _ _ same _ => noBackslash same
      · exact fun _ _ same _ => noBackslash same
  | letter escaped => exact ⟨_, readPieces?_letter escaped read, rfl⟩
  | unit value =>
      refine ⟨.unit character.toNat :: pieces, ?_, ?_⟩
      · simp [readPieces?, value, read]
      · obtain ⟨high, -⟩ := not_surrogate character
        rcases pieces with - | ⟨plain | low, others⟩
        · simp [joinPieces, loneUnit_toNat]
        · simp [joinPieces, loneUnit_toNat]
        · simp [joinPieces, high, loneUnit_toNat]
  | pair supplementary high low =>
      obtain ⟨isHigh, isLow, same⟩ := joined_units supplementary
      refine ⟨.unit (highUnit character) :: .unit (lowUnit character) :: pieces, ?_, ?_⟩
      · simp [readPieces?, high, low, read]
      · rw [joinPieces, isHigh, isLow, same]
        rfl

theorem SpellsAll.read {characters text : List Char} (spells : SpellsAll characters text)
    (rest : List Char) : ∃ pieces, readPieces? (text ++ '"' :: rest) = some (pieces, rest) ∧
      joinPieces pieces = characters := by
  induction spells with
  | nil => exact ⟨[], rfl, rfl⟩
  | cons first others induction =>
      obtain ⟨pieces, read, joined⟩ := induction
      obtain ⟨more, readFirst, joinedFirst⟩ := first.read read
      refine ⟨more, ?_, ?_⟩
      · rw [List.append_assoc, readFirst]
      · rw [joinedFirst, joined]

theorem Quoted.read {value : String} {text : List Char} (quoted : Quoted value text)
    (rest : List Char) : readText? (text ++ rest) = some (value, rest) := by
  cases quoted with
  | closed spelled =>
      obtain ⟨pieces, read, joined⟩ := spelled.read rest
      rw [readText?, List.append_assoc, List.singleton_append, read, Option.map_some]
      simp only [joined, String.ofList_toList]

/-- A character that cannot belong to a number in front of it. -/
def endsNumber (character : Char) : Bool :=
  !(Text.isDigit character || character == '.' || character == 'e' || character == 'E')

/-- What stands behind a number does not belong to it. -/
def Follows (rest : List Char) : Prop :=
  ∀ next ∈ rest.head?, endsNumber next = true

theorem not_of_endsNumber {character : Char} (ends : endsNumber character = true) :
    Text.isDigit character = false ∧ character ≠ '.' ∧ character ≠ 'e' ∧ character ≠ 'E' := by
  simp only [endsNumber, Bool.not_eq_true', Bool.or_eq_false_iff, beq_eq_false_iff_ne] at ends
  obtain ⟨⟨⟨digit, point⟩, small⟩, large⟩ := ends
  exact ⟨digit, point, small, large⟩

theorem spanDigits_append {digits rest : List Char}
    (decimal : ∀ character ∈ digits, Text.isDigit character = true)
    (stops : ∀ next ∈ rest.head?, Text.isDigit next = false) :
    spanDigits (digits ++ rest) = (digits, rest) := by
  rw [spanDigits, List.span_eq_takeWhile_dropWhile, List.takeWhile_append_of_pos decimal,
    List.dropWhile_append_of_pos decimal]
  cases rest with
  | nil => rw [List.takeWhile_nil, List.dropWhile_nil, List.append_nil]
  | cons next rest =>
      have other := ne_true_of_eq_false (stops next rfl)
      rw [List.takeWhile_cons_of_neg other, List.dropWhile_cons_of_neg other, List.append_nil]

theorem Whole.readWhole? {limit : Option Nat} {digits rest : List Char}
    (whole : Whole limit digits) (follows : Follows rest) :
    readWhole? (digits ++ rest) = some (digits, rest) := by
  rcases whole.start with rfl | ⟨first, others, rfl, other⟩
  · rfl
  · have span := spanDigits_append whole.decimal fun next member =>
      (not_of_endsNumber (follows next member)).1
    rw [List.cons_append] at span ⊢
    unfold Json.readWhole?
    split
    · next same => exact absurd (List.cons.inj same).1 other
    · rw [span]

theorem Whole.readUnsigned? {limit : Option Nat} {digits rest : List Char}
    (whole : Whole limit digits) (follows : Follows rest) (negative : Bool) :
    readUnsigned? limit negative (digits ++ rest) =
      some (.ok (.integer (Text.signed negative (Text.digitsValue digits)), rest)) := by
  have fraction : readFraction rest = ([], rest) := by
    unfold readFraction
    split
    · exact absurd (follows '.' rfl) (by decide)
    · rfl
  have exponent : readExponent rest = ([], rest) := by
    unfold readExponent
    split
    · rfl
    · next letter rest =>
        obtain ⟨-, -, small, large⟩ := not_of_endsNumber (follows letter rfl)
        simp [small, large]
  simp only [Json.readUnsigned?, whole.readWhole? follows, fraction, exponent, wholeNumber,
    whole.short]
  rfl

theorem Whole.starts {limit : Option Nat} {digits : List Char} (whole : Whole limit digits) :
    ∃ first rest, digits = first :: rest ∧ Text.isDigit first = true := by
  rcases whole.start with rfl | ⟨first, rest, rfl, -⟩
  · exact ⟨'0', [], rfl, rfl⟩
  · exact ⟨first, rest, rfl, whole.decimal first List.mem_cons_self⟩

theorem ne_of_isDigit {digit other : Char} (decimal : Text.isDigit digit = true)
    (no : Text.isDigit other = false) : digit ≠ other := by
  rintro rfl
  rw [decimal] at no
  cases no

theorem readScalar_natural {limit : Option Nat} {digits rest : List Char}
    (whole : Whole limit digits) (follows : Follows rest) :
    readScalar limit (digits ++ rest) = .ok (.integer (Text.digitsValue digits), rest) := by
  have read := whole.readUnsigned? follows false
  obtain ⟨first, others, rfl, decimal⟩ := whole.starts
  rw [List.cons_append] at read ⊢
  rw [readScalar, read]
  · rfl
  · exact fun _ same => ne_of_isDigit decimal (by decide) (List.cons.inj same).1
  · exact fun _ same => ne_of_isDigit decimal (by decide) (List.cons.inj same).1

theorem readScalar_negative {limit : Option Nat} {digits rest : List Char}
    (whole : Whole limit digits) (follows : Follows rest) :
    readScalar limit ('-' :: digits ++ rest) =
      .ok (.integer (-(Text.digitsValue digits : Int)), rest) := by
  rw [List.cons_append, readScalar, whole.readUnsigned? follows true]
  rfl

variable {limit : Option Nat}

theorem readValue_scalar {first : Char} (noArray : first ≠ '[') (noObject : first ≠ '\x7b')
    (fuel : Nat) (rest : List Char) :
    readValue limit (fuel + 1) (first :: rest) = readScalar limit (first :: rest) := by
  rw [readValue]
  · exact fun _ same => noArray (List.cons.inj same).1
  · exact fun _ same => noObject (List.cons.inj same).1

theorem readValue_emptyArray {gap : List Char} (blank : Gap gap) (fuel : Nat) (rest : List Char) :
    readValue limit (fuel + 1) ('[' :: (gap ++ ']' :: rest)) = .ok (.array [], rest) := by
  rw [readValue, skipBlanks_gap blank (.solid rfl)]
  rfl

theorem readValue_emptyObject {gap : List Char} (blank : Gap gap) (fuel : Nat)
    (rest : List Char) :
    readValue limit (fuel + 1) ('\x7b' :: (gap ++ '\x7d' :: rest)) = .ok (.object [], rest) := by
  rw [readValue, skipBlanks_gap blank (.solid rfl)]
  rfl

theorem readValue_array {gap : List Char} (blank : Gap gap) {first : Char}
    (solid : isGap first = false) (other : first ≠ ']') (fuel : Nat) (rest : List Char) :
    readValue limit (fuel + 1) ('[' :: (gap ++ first :: rest)) =
      (readItems limit fuel (first :: rest)).map .array := by
  rw [readValue, skipBlanks_gap blank (.solid solid)]
  split
  · next same => exact absurd (List.cons.inj same).1 other
  · rfl

theorem readValue_object {gap : List Char} (blank : Gap gap) (fuel : Nat) (rest : List Char) :
    readValue limit (fuel + 1) ('\x7b' :: (gap ++ '"' :: rest)) =
      (readMembers limit fuel ('"' :: rest)).map fun found => .object (Entries.ofList found) := by
  rw [readValue, skipBlanks_gap blank (.solid rfl)]
  rfl

theorem Writes.starts {value : Json} {text : List Char} (writes : Writes limit value text) :
    ∃ first rest, text = first :: rest ∧ isGap first = false ∧ first ≠ ']' := by
  cases writes with
  | nothing => exact ⟨'n', _, rfl, rfl, by decide⟩
  | yes => exact ⟨'t', _, rfl, rfl, by decide⟩
  | no => exact ⟨'f', _, rfl, rfl, by decide⟩
  | natural whole =>
      obtain ⟨first, rest, rfl, decimal⟩ := whole.starts
      refine ⟨first, rest, rfl, ?_, ne_of_isDigit decimal (by decide)⟩
      have noBlank := ne_of_isDigit decimal (show Text.isDigit ' ' = false by decide)
      have noTab := ne_of_isDigit decimal (show Text.isDigit '\t' = false by decide)
      have noFeed := ne_of_isDigit decimal (show Text.isDigit '\n' = false by decide)
      have noReturn := ne_of_isDigit decimal (show Text.isDigit '\r' = false by decide)
      rw [isGap, beq_false_of_ne noBlank, beq_false_of_ne noTab, beq_false_of_ne noFeed,
        beq_false_of_ne noReturn]
      rfl
  | negative whole => exact ⟨'-', _, rfl, rfl, by decide⟩
  | string quoted => exact ⟨'"', _, rfl, rfl, by decide⟩
  | emptyArray blank => exact ⟨'[', _, rfl, rfl, by decide⟩
  | array blank written => exact ⟨'[', _, rfl, rfl, by decide⟩
  | emptyObject blank => exact ⟨'\x7b', _, rfl, rfl, by decide⟩
  | object blank written => exact ⟨'\x7b', _, rfl, rfl, by decide⟩

theorem Writes.solid {value : Json} {text : List Char} (writes : Writes limit value text) :
    Starts text := by
  obtain ⟨first, rest, rfl, solid, -⟩ := writes.starts
  exact .solid solid

theorem WritesItems.starts {items : List Json} {text : List Char}
    (writes : WritesItems limit items text) :
    ∃ first rest, text = first :: rest ∧ isGap first = false ∧ first ≠ ']' := by
  cases writes with
  | last written blank =>
      obtain ⟨first, rest, rfl, solid, other⟩ := written.starts
      exact ⟨first, _, rfl, solid, other⟩
  | next written blankBefore blankAfter others =>
      obtain ⟨first, rest, rfl, solid, other⟩ := written.starts
      exact ⟨first, _, rfl, solid, other⟩

theorem WritesMembers.starts {members : List (String × Json)} {text : List Char}
    (writes : WritesMembers limit members text) : ∃ rest, text = '"' :: rest := by
  cases writes with
  | last => exact ⟨_, rfl⟩
  | next => exact ⟨_, rfl⟩

theorem follows_cons {next : Char} (ends : endsNumber next = true) (rest : List Char) :
    Follows (next :: rest) := by
  intro character member
  cases member
  exact ends

theorem ends_of_gap {character : Char} (blank : isGap character = true) :
    endsNumber character = true := by
  simp only [isGap, Bool.or_eq_true, beq_iff_eq] at blank
  rcases blank with ((rfl | rfl) | rfl) | rfl
  · decide
  · decide
  · decide
  · decide

/-- Neither blanks nor what ends a number belong to a number in front of them. -/
theorem follows_gap {gap : List Char} (blank : Gap gap) {next : Char}
    (ends : endsNumber next = true) (rest : List Char) : Follows (gap ++ next :: rest) := by
  cases gap with
  | nil => exact follows_cons ends rest
  | cons first others => exact follows_cons (ends_of_gap (blank first List.mem_cons_self)) _

/-- A first member is read in front of what follows its value: the end of the object, or further
members. -/
theorem readMembers_first {name : String} {value : Json} {quoted before after text : List Char}
    {fuel : Nat} {tail : List Char} (named : Quoted name quoted) (blankBefore : Gap before)
    (blankAfter : Gap after) (starts : Starts text)
    (read : readValue limit fuel (text ++ tail) = .ok (value, tail)) :
    let all := '"' :: (quoted ++ (before ++ ':' :: (after ++ (text ++ tail))))
    (∀ rest, skipBlanks tail = '\x7d' :: rest →
        readMembers limit (fuel + 1) all = .ok ([(name, value)], rest)) ∧
      ∀ more, skipBlanks tail = ',' :: more →
        readMembers limit (fuel + 1) all =
          (readMembers limit fuel (skipBlanks more)).map ((name, value) :: ·) := by
  have colon : skipBlanks (before ++ ':' :: (after ++ (text ++ tail))) =
      ':' :: (after ++ (text ++ tail)) := skipBlanks_gap blankBefore (.solid rfl)
  have solid : skipBlanks (after ++ (text ++ tail)) = text ++ tail := by
    cases starts with
    | solid solid => exact skipBlanks_gap blankAfter (.solid solid)
  intro all
  constructor
  · intro rest closed
    simp only [all, readMembers, named.read, colon, solid, read, closed]
  · intro more comma
    simp only [all, readMembers, named.read, colon, solid, read, comma]

mutual

/-- Every text of a value is read as the value, whatever follows it. -/
theorem Writes.read {value : Json} {text : List Char} (writes : Writes limit value text)
    {fuel : Nat} (enough : 2 * text.length ≤ fuel + 1) {rest : List Char} (follows : Follows rest) :
    readValue limit fuel (text ++ rest) = .ok (value, rest) := by
  obtain ⟨first, others, start, -⟩ := writes.starts
  obtain ⟨fuel, rfl⟩ : ∃ less, fuel = less + 1 := by
    rw [start, List.length_cons] at enough
    exact ⟨fuel - 1, by omega⟩
  cases writes with
  | nothing => exact readValue_scalar (by decide) (by decide) fuel _
  | yes => exact readValue_scalar (by decide) (by decide) fuel _
  | no => exact readValue_scalar (by decide) (by decide) fuel _
  | natural whole =>
      obtain ⟨digit, more, rfl, decimal⟩ := whole.starts
      rw [List.cons_append, readValue_scalar (ne_of_isDigit decimal (by decide))
        (ne_of_isDigit decimal (by decide)), ← List.cons_append, readScalar_natural whole follows]
  | negative whole =>
      rw [List.cons_append, readValue_scalar (by decide) (by decide), ← List.cons_append,
        readScalar_negative whole follows]
  | string quoted =>
      rw [List.cons_append, readValue_scalar (by decide) (by decide), readScalar, quoted.read]
      rfl
  | emptyArray blank =>
      rw [List.cons_append, List.cons_append, List.append_assoc]
      exact readValue_emptyArray blank fuel rest
  | array blank written =>
      obtain ⟨first, others, rfl, solid, other⟩ := written.starts
      rw [List.length_append, List.length_cons] at enough
      have items := written.read (show 2 * (first :: others).length ≤ fuel by omega) rest
      rw [List.cons_append, List.cons_append, List.append_assoc, List.cons_append,
        readValue_array blank solid other, ← List.cons_append, items]
      rfl
  | emptyObject blank =>
      rw [List.cons_append, List.cons_append, List.append_assoc]
      exact readValue_emptyObject blank fuel rest
  | object blank written =>
      obtain ⟨others, rfl⟩ := written.starts
      rw [List.length_append, List.length_cons] at enough
      have members := written.read (show 2 * ('"' :: others).length ≤ fuel by omega) rest
      rw [List.cons_append, List.cons_append, List.append_assoc, List.cons_append,
        readValue_object blank, ← List.cons_append, members]
      rfl

theorem WritesItems.read {items : List Json} {text : List Char}
    (writes : WritesItems limit items text) {fuel : Nat} (enough : 2 * text.length ≤ fuel)
    (rest : List Char) : readItems limit fuel (text ++ rest) = .ok (items, rest) := by
  obtain ⟨first, others, start, -⟩ := writes.starts
  obtain ⟨fuel, rfl⟩ : ∃ less, fuel = less + 1 := by
    rw [start, List.length_cons] at enough
    exact ⟨fuel - 1, by omega⟩
  cases writes with
  | @last item text gap written blank =>
      rw [List.length_append] at enough
      have value := written.read (show 2 * text.length ≤ fuel + 1 by omega)
        (follows_gap blank (show endsNumber ']' = true by decide) rest)
      have closed : skipBlanks (gap ++ ']' :: rest) = ']' :: rest :=
        skipBlanks_gap blank (.solid rfl)
      rw [readItems, List.append_assoc, List.append_assoc, List.singleton_append, value]
      simp only [closed]
  | @next item items text before after more written blankBefore blankAfter later =>
      simp only [List.length_append, List.length_cons] at enough
      have value := written.read (show 2 * text.length ≤ fuel + 1 by omega)
        (follows_gap blankBefore (show endsNumber ',' = true by decide)
          (after ++ (more ++ rest)))
      have items := later.read (show 2 * more.length ≤ fuel by omega) rest
      have comma : skipBlanks (before ++ ',' :: (after ++ (more ++ rest))) =
          ',' :: (after ++ (more ++ rest)) := skipBlanks_gap blankBefore (.solid rfl)
      have behind : skipBlanks (after ++ (more ++ rest)) = more ++ rest := by
        obtain ⟨start, further, rfl, solid, -⟩ := later.starts
        exact skipBlanks_gap blankAfter (.solid solid)
      rw [readItems, List.append_assoc, List.append_assoc, List.cons_append, List.append_assoc,
        value]
      simp only [comma, behind, items]
      rfl

theorem WritesMembers.read {members : List (String × Json)} {text : List Char}
    (writes : WritesMembers limit members text) {fuel : Nat} (enough : 2 * text.length ≤ fuel)
    (rest : List Char) : readMembers limit fuel (text ++ rest) = .ok (members, rest) := by
  obtain ⟨others, start⟩ := writes.starts
  obtain ⟨fuel, rfl⟩ : ∃ less, fuel = less + 1 := by
    rw [start, List.length_cons] at enough
    exact ⟨fuel - 1, by omega⟩
  cases writes with
  | @last name value quoted before after text gap named blankBefore blankAfter written blank =>
      simp only [List.length_append, List.length_cons] at enough
      have value := written.read (show 2 * text.length ≤ fuel + 1 by omega)
        (follows_gap blank (show endsNumber '\x7d' = true by decide) rest)
      have closed : skipBlanks (gap ++ '\x7d' :: rest) = '\x7d' :: rest :=
        skipBlanks_gap blank (.solid rfl)
      have read := (readMembers_first named blankBefore blankAfter written.solid value).1 rest
        closed
      simpa only [List.append_assoc, List.cons_append, List.nil_append] using read
  | @next name value members quoted before after text behind next more named blankBefore
      blankAfter written blankBehind blankNext later =>
      simp only [List.length_append, List.length_cons] at enough
      have value := written.read (show 2 * text.length ≤ fuel + 1 by omega)
        (follows_gap blankBehind (show endsNumber ',' = true by decide) (next ++ (more ++ rest)))
      have members := later.read (show 2 * more.length ≤ fuel by omega) rest
      have comma : skipBlanks (behind ++ ',' :: (next ++ (more ++ rest))) =
          ',' :: (next ++ (more ++ rest)) := skipBlanks_gap blankBehind (.solid rfl)
      have found : skipBlanks (next ++ (more ++ rest)) = more ++ rest := by
        obtain ⟨further, rfl⟩ := later.starts
        exact skipBlanks_gap blankNext (.solid rfl)
      have read := (readMembers_first named blankBefore blankAfter written.solid value).2 _ comma
      rw [found, members] at read
      simpa only [List.append_assoc, List.cons_append, Reading.map] using read

end

/-- Every text of a value with blanks around it is read as the value. -/
theorem WritesFile.read {value : Json} {text : List Char} (writes : WritesFile limit value text) :
    readWithin limit text = .ok value := by
  cases writes with
  | @text before text after blankBefore written blankAfter =>
      have solid : skipBlanks (before ++ (text ++ after)) = text ++ after := by
        obtain ⟨first, rest, rfl, solid, -⟩ := written.starts
        exact skipBlanks_gap blankBefore (.solid solid)
      have follows : Follows after := by
        cases after with
        | nil => exact nofun
        | cons next rest =>
            exact follows_cons (ends_of_gap (blankAfter next List.mem_cons_self)) rest
      have nothing : skipBlanks after = [] := List.dropWhile_eq_nil_iff.mpr blankAfter
      have enough : 2 * text.length ≤ 2 * (before ++ (text ++ after)).length + 2 + 1 := by
        simp only [List.length_append]
        omega
      rw [readWithin, solid, written.read enough follows]
      simp only [nothing, List.isEmpty_nil, if_true]

end Selectivity.Json
