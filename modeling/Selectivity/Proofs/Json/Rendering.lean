import Selectivity.Json.Writer
import Selectivity.Proofs.Json.Grammar
import Selectivity.Proofs.Text.Numerals

/-!
# Rendered values are JSON texts

However a value is laid out, the text that is written for it is one way to write the value, and so
it is read as the value.
-/

namespace Selectivity.Json

/-- A value without numbers of too many digits, without numbers that are not whole, and without
objects that repeat a name. -/
inductive Exact (limit : Option Nat) : Json → Prop where
  | null : Exact limit .null
  | boolean (value : Bool) : Exact limit (.boolean value)
  | integer {value : Int} (short : Text.exceeds limit (Text.digits value.natAbs) = false) :
      Exact limit (.integer value)
  | string (value : String) : Exact limit (.string value)
  | array {items : List Json} (each : ∀ item ∈ items, Exact limit item) :
      Exact limit (.array items)
  | object {members : List (String × Json)} (distinct : (Entries.names members).Nodup)
      (each : ∀ member ∈ members, Exact limit member.2) : Exact limit (.object members)

theorem hexValue?_hexDigit {value : Nat} (small : value < 16) :
    hexValue? (Text.hexDigit value) = some value := by
  have all : ∀ value < 16, hexValue? (Text.hexDigit value) = some value := by decide
  exact all value small

theorem unitEscape_eq (unit : Nat) :
    unitEscape unit = ['\\', 'u', Text.hexDigit (unit / 16 / 16 / 16 % 16),
      Text.hexDigit (unit / 16 / 16 % 16), Text.hexDigit (unit / 16 % 16),
      Text.hexDigit (unit % 16)] := rfl

theorem unitValue?_hexDigits {unit : Nat} (small : unit < 0x10000) :
    unitValue? (Text.hexDigit (unit / 16 / 16 / 16 % 16)) (Text.hexDigit (unit / 16 / 16 % 16))
      (Text.hexDigit (unit / 16 % 16)) (Text.hexDigit (unit % 16)) = some unit := by
  have least : ∀ number : Nat, number % 16 < 16 := fun number => Nat.mod_lt number (by decide)
  simp only [unitValue?, hexValue?_hexDigit (least _)]
  congr 1
  omega

theorem spells_charEscape (character : Char) : Spells character (charEscape character) := by
  by_cases basic : character.toNat < 0x10000
  · rw [charEscape, if_pos basic, unitEscape_eq]
    exact .unit (unitValue?_hexDigits basic)
  · have bounded : character.toNat < 0x110000 := by
      rcases character.valid with below | ⟨-, below⟩
      · exact Nat.lt_trans below (by decide)
      · exact below
    have high : highUnit character < 0x10000 := by
      unfold highUnit
      omega
    have low : lowUnit character < 0x10000 := by
      unfold lowUnit
      omega
    have units : charEscape character =
        unitEscape (highUnit character) ++ unitEscape (lowUnit character) := if_neg basic
    rw [units, unitEscape_eq, unitEscape_eq]
    exact .pair (Nat.le_of_not_lt basic) (unitValue?_hexDigits high) (unitValue?_hexDigits low)

theorem spells_writtenChar (asciiOnly : Bool) (character : Char) :
    Spells character (writtenChar asciiOnly character) := by
  unfold writtenChar
  split
  · next same => exact .letter (by rw [eq_of_beq same]; rfl)
  split
  · next same => exact .letter (by rw [eq_of_beq same]; rfl)
  split
  · next same => exact .letter (by rw [eq_of_beq same]; rfl)
  split
  · next same => exact .letter (by rw [eq_of_beq same]; rfl)
  split
  · next same => exact .letter (by rw [eq_of_beq same]; rfl)
  split
  · next same => exact .letter (by rw [eq_of_beq same]; rfl)
  split
  · next same => exact .letter (by rw [eq_of_beq same]; rfl)
  split
  · exact spells_charEscape character
  split
  · exact spells_charEscape character
  · next noQuote noBackslash _ _ _ _ _ visible _ =>
      exact .plain (Nat.le_of_not_lt visible) (ne_of_beq_false (eq_false_of_ne_true noQuote))
        (ne_of_beq_false (eq_false_of_ne_true noBackslash))

theorem spellsAll_written (asciiOnly : Bool) (text : List Char) :
    SpellsAll text (text.flatMap (writtenChar asciiOnly)) := by
  induction text with
  | nil => exact .nil
  | cons character rest induction =>
      rw [List.flatMap_cons]
      exact .cons (spells_writtenChar asciiOnly character) induction

theorem writtenText_quoted (asciiOnly : Bool) (value : String) :
    ∃ text, (writtenText asciiOnly value).toList = '"' :: text ∧ Quoted value text := by
  refine ⟨_, ?_, .closed (spellsAll_written asciiOnly value.toList)⟩
  rw [writtenText, String.toList_ofList, List.cons_append]

theorem whole_digits {limit : Option Nat} {number : Nat}
    (short : Text.exceeds limit (Text.digits number) = false) :
    Whole limit (Text.digits number) :=
  ⟨Text.isDigit_of_mem_digits, Text.digits_cases number, short⟩

theorem writes_numeral {limit : Option Nat} {value : Int}
    (short : Text.exceeds limit (Text.digits value.natAbs) = false) :
    Writes limit (.integer value) (Text.numeral value) := by
  have whole := whole_digits short
  have stands := Text.digitsValue_digits value.natAbs
  rw [Text.numeral]
  split
  · next negative =>
      have written := Writes.negative whole
      rw [stands, Int.ofNat_natAbs_of_nonpos (Int.le_of_lt negative), Int.neg_neg] at written
      exact written
  · next other =>
      have written := Writes.natural whole
      rw [stands, Int.natAbs_of_nonneg (Int.not_lt.mp other)] at written
      exact written

theorem lineBreak_gap (layout : Layout) (level : Nat) : Gap (layout.lineBreak level).toList := by
  unfold Layout.lineBreak
  split
  · exact nofun
  · rw [String.toList_ofList]
    intro character member
    rcases List.mem_cons.mp member with rfl | blank
    · rfl
    · rw [List.eq_of_mem_replicate blank]
      rfl

theorem separator_comma (layout : Layout) (level : Nat) :
    ∃ gap, Gap gap ∧ (layout.separator level).toList = ',' :: gap := by
  unfold Layout.separator
  split
  · exact ⟨[' '], by decide, rfl⟩
  · exact ⟨_, lineBreak_gap layout level, String.toList_append⟩

theorem bracketed_nil (layout : Layout) (level : Nat) (opening closing : String) :
    (layout.bracketed level opening closing []).toList = opening.toList ++ closing.toList :=
  String.toList_append

theorem bracketed_toList (layout : Layout) (level : Nat) (opening closing : String)
    {items : List String} (nonempty : items ≠ []) :
    (layout.bracketed level opening closing items).toList =
      opening.toList ++ ((layout.lineBreak (level + 1)).toList ++
        ((String.intercalate (layout.separator (level + 1)) items).toList ++
          ((layout.lineBreak level).toList ++ closing.toList))) := by
  have listed : items.isEmpty = false := by
    rw [List.isEmpty_eq_false_iff]
    exact nonempty
  rw [Layout.bracketed, listed]
  simp only [Bool.false_eq_true, if_false, String.toList_append, List.append_assoc]

variable {limit : Option Nat} {layout : Layout} {level : Nat}

/-- Written items with separators between them, and the closing bracket behind a line break. -/
theorem writesItems_rendered {first : Json} {rest : List Json} {closing : List Char}
    (blank : Gap closing)
    (each : ∀ item ∈ first :: rest, Writes limit item (renderAt layout level item).toList) :
    WritesItems limit (first :: rest)
      ((String.intercalate (layout.separator level)
        (renderItems layout level (first :: rest))).toList ++ (closing ++ [']'])) := by
  have here := each first List.mem_cons_self
  induction rest generalizing first with
  | nil => exact .last here blank
  | cons second others induction =>
      have later := induction (fun item member => each item (List.mem_cons_of_mem first member))
        (each second (List.mem_cons_of_mem first List.mem_cons_self))
      obtain ⟨gap, blankGap, separator⟩ := separator_comma layout level
      rw [renderItems, renderItems, String.intercalate_cons_cons, ← renderItems,
        String.toList_append, String.toList_append, separator]
      simpa only [List.append_assoc, List.cons_append, List.nil_append] using
        WritesItems.next here (fun _ none => absurd none List.not_mem_nil) blankGap later

/-- Written members with separators between them, and the closing brace behind a line break. -/
theorem writesMembers_rendered {name : String} {value : Json} {rest : List (String × Json)}
    {closing : List Char} (blank : Gap closing)
    (each : ∀ member ∈ (name, value) :: rest,
      Writes limit member.2 (renderAt layout level member.2).toList) :
    WritesMembers limit ((name, value) :: rest)
      ((String.intercalate (layout.separator level)
        (renderMembers layout level ((name, value) :: rest))).toList ++ (closing ++ ['\x7d'])) := by
  have none : Gap [] := by decide
  have space : Gap [' '] := by decide
  have colon : ": ".toList = [':', ' '] := rfl
  have here := each (name, value) List.mem_cons_self
  obtain ⟨quoted, written, named⟩ := writtenText_quoted layout.asciiOnly name
  induction rest generalizing name value quoted with
  | nil =>
      have first := WritesMembers.last named none space here blank
      rw [renderMembers, renderMembers, String.intercalate_singleton, String.toList_append,
        String.toList_append, written, colon]
      simpa only [List.append_assoc, List.cons_append, List.nil_append] using first
  | cons second others induction =>
      obtain ⟨other, next⟩ := second
      obtain ⟨quotedNext, writtenNext, namedNext⟩ := writtenText_quoted layout.asciiOnly other
      have later := induction
        (fun member listed => each member (List.mem_cons_of_mem _ listed))
        (each (other, next) (List.mem_cons_of_mem _ List.mem_cons_self)) quotedNext writtenNext
        namedNext
      obtain ⟨gap, blankGap, separator⟩ := separator_comma layout level
      have first := WritesMembers.next named none space here none blankGap later
      rw [renderMembers, renderMembers, String.intercalate_cons_cons, ← renderMembers,
        String.toList_append, String.toList_append, String.toList_append, String.toList_append,
        written, separator, colon]
      simpa only [List.append_assoc, List.cons_append, List.nil_append] using first

theorem Exact.writes {value : Json} (exact : Exact limit value) (layout : Layout) (level : Nat) :
    Writes limit value (renderAt layout level value).toList := by
  induction exact generalizing level with
  | null => exact .nothing
  | boolean value =>
      cases value with
      | true => exact .yes
      | false => exact .no
  | integer short =>
      rw [renderAt, String.toList_ofList]
      exact writes_numeral short
  | string value =>
      obtain ⟨text, written, quoted⟩ := writtenText_quoted layout.asciiOnly value
      rw [renderAt, written]
      exact .string quoted
  | @array items each induction =>
      rw [renderAt]
      cases items with
      | nil =>
          have none : Gap [] := by decide
          rw [renderItems, bracketed_nil]
          exact .emptyArray none
      | cons first rest =>
          have nonempty : renderItems layout (level + 1) (first :: rest) ≠ [] :=
            List.cons_ne_nil _ _
          have written := Writes.array (lineBreak_gap layout (level + 1))
            (writesItems_rendered (lineBreak_gap layout level)
              fun item member => induction item member (level + 1))
          rw [bracketed_toList layout level "[" "]" nonempty]
          exact written
  | @object members distinct each induction =>
      rw [renderAt]
      cases members with
      | nil =>
          have none : Gap [] := by decide
          rw [renderMembers, bracketed_nil]
          exact .emptyObject none
      | cons first rest =>
          obtain ⟨name, value⟩ := first
          have written := Writes.object (lineBreak_gap layout (level + 1))
            (writesMembers_rendered (lineBreak_gap layout level)
              fun member listed => induction member listed (level + 1))
          rw [Entries.ofList_of_distinct distinct] at written
          have nonempty : renderMembers layout (level + 1) ((name, value) :: rest) ≠ [] :=
            List.cons_ne_nil _ _
          rw [bracketed_toList layout level "\x7b" "\x7d" nonempty]
          exact written

theorem Exact.writesFile {value : Json} (exact : Exact limit value) (layout : Layout) :
    WritesFile limit value (render layout value).toList := by
  have none : Gap [] := by decide
  have written := WritesFile.text none (exact.writes layout 0) none
  rw [List.nil_append, List.append_nil] at written
  exact written

end Selectivity.Json
