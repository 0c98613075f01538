import Selectivity.Text.Blank

/-!
# Blanks around a text

Trimming takes the blanks from both ends of a text and nothing else. What it leaves neither starts
nor ends with a blank, and is the only such text that blanks before and behind it make the whole.
-/

namespace Selectivity.Text

variable {text item piece : List Char}

theorem trim_eq (text : List Char) : trim text = (trimStart (trimStart text).reverse).reverse :=
  rfl

theorem trimStart_append {blanks : List Char}
    (blank : ∀ character ∈ blanks, isBlank character = true) (text : List Char) :
    trimStart (blanks ++ text) = trimStart text :=
  List.dropWhile_append_of_pos blank

theorem trim_append_left {blanks : List Char}
    (blank : ∀ character ∈ blanks, isBlank character = true) (text : List Char) :
    trim (blanks ++ text) = trim text := by
  rw [trim_eq, trim_eq, trimStart_append blank]

theorem trim_append_right (text : List Char) {blanks : List Char}
    (blank : ∀ character ∈ blanks, isBlank character = true) :
    trim (text ++ blanks) = trim text := by
  have reversed : ∀ character ∈ blanks.reverse, isBlank character = true :=
    fun character member => blank character (List.mem_reverse.mp member)
  rw [trim, trim, trimWhere, trimWhere, List.dropWhile_append]
  split
  · next none =>
      have gone := trimStart_append blank []
      rw [List.append_nil, trimStart] at gone
      rw [List.isEmpty_iff] at none
      rw [none, gone]
      rfl
  · rw [List.reverse_append, List.dropWhile_append_of_pos reversed]

theorem exists_blanks_append (text : List Char) :
    ∃ blanks, (∀ character ∈ blanks, isBlank character = true) ∧
      text = blanks ++ trimStart text := by
  refine ⟨text.takeWhile isBlank, fun character member => ?_, ?_⟩
  · exact List.all_eq_true.mp List.all_takeWhile character member
  · exact List.takeWhile_append_dropWhile.symm

/-- Once the blanks in front are removed, the rest of them stand behind the trimmed text. -/
theorem exists_trim_append (text : List Char) :
    ∃ blanks, (∀ character ∈ blanks, isBlank character = true) ∧
      trimStart text = trim text ++ blanks := by
  obtain ⟨blanks, blank, whole⟩ := exists_blanks_append (trimStart text).reverse
  refine ⟨blanks.reverse, fun character member => blank character (List.mem_reverse.mp member), ?_⟩
  rw [trim_eq, ← List.reverse_append, ← whole, List.reverse_reverse]

/-- A text that neither starts nor ends with a blank. -/
structure Bare (text : List Char) : Prop where
  start : text.head?.any isBlank = false
  finish : text.getLast?.any isBlank = false

theorem bare_iff :
    Bare text ↔ text.head?.any isBlank = false ∧ text.getLast?.any isBlank = false :=
  ⟨fun bare => ⟨bare.start, bare.finish⟩, fun ends => ⟨ends.1, ends.2⟩⟩

instance : DecidablePred Bare :=
  fun _ => decidable_of_iff _ bare_iff.symm

theorem Bare.of_solid (solid : ∀ character ∈ text, isBlank character = false) : Bare text where
  start := by
    rw [Option.any_eq_false]
    intro character first
    exact solid character (List.mem_of_mem_head? first)
  finish := by
    rw [Option.any_eq_false]
    intro character last
    exact solid character (List.mem_of_getLast? last)

theorem trimStart_eq_self (start : text.head?.any isBlank = false) : trimStart text = text := by
  cases text with
  | nil => rfl
  | cons character rest => exact List.dropWhile_cons_of_neg (Bool.eq_false_iff.mp start)

theorem head?_trimStart (text : List Char) : (trimStart text).head?.any isBlank = false := by
  have first := List.head?_dropWhile_not isBlank text
  rw [trimStart]
  split at first
  · next character starts =>
      rw [starts]
      exact first
  · next none =>
      rw [none]
      rfl

theorem Bare.trim_eq_self (bare : Bare text) : trim text = text := by
  have reversed : trimStart text.reverse = text.reverse := by
    refine trimStart_eq_self ?_
    rw [List.head?_reverse]
    exact bare.finish
  rw [trim_eq, trimStart_eq_self bare.start, reversed, List.reverse_reverse]

theorem trim_eq_self (solid : ∀ character ∈ text, isBlank character = false) : trim text = text :=
  (Bare.of_solid solid).trim_eq_self

theorem bare_trim (text : List Char) : Bare (trim text) where
  start := by
    -- The trimmed text starts like the text without the blanks in front, unless nothing is left.
    obtain ⟨blanks, -, whole⟩ := exists_trim_append text
    have first := head?_trimStart text
    rw [whole, List.head?_append] at first
    cases starts : (trim text).head? with
    | none => rfl
    | some character =>
        rw [starts] at first
        exact first
  finish := by
    rw [trim_eq, List.getLast?_reverse]
    exact head?_trimStart _

/-- The piece is the item with any blanks before and behind it. -/
def BlanksAround (item piece : List Char) : Prop :=
  ∃ before behind, before.all isBlank = true ∧ behind.all isBlank = true ∧
    piece = before ++ (item ++ behind)

theorem blanksAround_trim (text : List Char) : BlanksAround (trim text) text := by
  obtain ⟨before, blankBefore, whole⟩ := exists_blanks_append text
  obtain ⟨behind, blankBehind, rest⟩ := exists_trim_append text
  rw [rest] at whole
  exact ⟨before, behind, List.all_eq_true.mpr blankBefore, List.all_eq_true.mpr blankBehind, whole⟩

theorem BlanksAround.trim_eq (around : BlanksAround item piece) : trim piece = trim item := by
  obtain ⟨before, behind, blankBefore, blankBehind, rfl⟩ := around
  rw [trim_append_left (List.all_eq_true.mp blankBefore),
    trim_append_right item (List.all_eq_true.mp blankBehind)]

/-- Trimming leaves the one bare text that comes to the whole by blanks around it. -/
theorem trim_eq_iff : trim piece = item ↔ BlanksAround item piece ∧ Bare item := by
  constructor
  · rintro rfl
    exact ⟨blanksAround_trim piece, bare_trim piece⟩
  · rintro ⟨around, bare⟩
    rw [around.trim_eq, bare.trim_eq_self]

end Selectivity.Text
