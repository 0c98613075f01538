import Mathlib.Data.List.Forall2
import Selectivity.Proofs.Text.Pieces

/-!
# Enumerations

A list is written with commas between its items and with any blanks around each of them. Every text
enumerates items in this way, and in one way only if these are bare and hold no comma: the items it
is read as are the ones it was written from, and no others.
-/

namespace Selectivity.Text

/-- A text whose pieces between the commas are the listed items with blanks around them. -/
inductive Enumeration (listed : List (List Char)) : List Char → Prop where
  | join {pieces : List (List Char)} (nonempty : listed ≠ [])
      (spaced : List.Forall₂ BlanksAround listed pieces) :
      Enumeration listed ([','].intercalate pieces)

variable {item piece text : List Char} {listed pieces : List (List Char)}

theorem BlanksAround.comma_mem_iff (around : BlanksAround item piece) :
    ',' ∈ piece ↔ ',' ∈ item := by
  obtain ⟨before, behind, blankBefore, blankBehind, rfl⟩ := around
  have freeBefore := comma_not_mem_of_blank (List.all_eq_true.mp blankBefore)
  have freeBehind := comma_not_mem_of_blank (List.all_eq_true.mp blankBehind)
  rw [List.mem_append, List.mem_append, or_iff_right freeBefore, or_iff_left freeBehind]

theorem comma_not_mem_of_mem_splitOn (member : piece ∈ text.splitOn ',') : ',' ∉ piece := by
  rw [← splitAt_eq_splitOn] at member
  exact not_mem_of_mem_splitAt member

theorem bare_of_mem_items (member : item ∈ items text) : ',' ∉ item ∧ Bare item := by
  rw [items_eq] at member
  obtain ⟨piece, within, rfl⟩ := List.mem_map.mp member
  have around := blanksAround_trim piece
  exact ⟨around.comma_mem_iff.not.mp (comma_not_mem_of_mem_splitOn within), bare_trim piece⟩

theorem length_items (text : List Char) : (items text).length = text.count ',' + 1 := by
  rw [items_eq, List.length_map, length_splitOn]

theorem blanksAround_items (text : List Char) :
    List.Forall₂ BlanksAround (items text) (text.splitOn ',') := by
  rw [items_eq, List.forall₂_map_left_iff, List.forall₂_same]
  exact fun piece _ => blanksAround_trim piece

theorem enumeration_items (text : List Char) : Enumeration (items text) text := by
  have joined := Enumeration.join (items_ne_nil text) (blanksAround_items text)
  rwa [List.intercalate_splitOn] at joined

theorem comma_not_mem_of_spaced (spaced : List.Forall₂ BlanksAround listed pieces)
    (free : ∀ item ∈ listed, ',' ∉ item) : ∀ piece ∈ pieces, ',' ∉ piece := by
  induction spaced with
  | nil => exact nofun
  | cons around _ induction =>
      obtain ⟨first, others⟩ := List.forall_mem_cons.mp free
      exact List.forall_mem_cons.mpr ⟨around.comma_mem_iff.not.mpr first, induction others⟩

theorem map_trim_of_spaced (spaced : List.Forall₂ BlanksAround listed pieces)
    (bare : ∀ item ∈ listed, Bare item) : pieces.map trim = listed := by
  induction spaced with
  | nil => rfl
  | cons around _ induction =>
      obtain ⟨first, others⟩ := List.forall_mem_cons.mp bare
      rw [List.map_cons, trim_eq_iff.mpr ⟨around, first⟩, induction others]

/-- An enumeration is read as the items that it was written from. -/
theorem Enumeration.items_eq (enumeration : Enumeration listed text)
    (own : ∀ item ∈ listed, ',' ∉ item ∧ Bare item) : items text = listed := by
  cases enumeration with
  | @join pieces nonempty spaced =>
      have some : pieces ≠ [] := by
        rintro rfl
        exact nonempty (List.forall₂_nil_right_iff.mp spaced)
      have free := comma_not_mem_of_spaced spaced fun item member => (own item member).1
      rw [Text.items_eq, List.splitOn_intercalate ',' free some]
      exact map_trim_of_spaced spaced fun item member => (own item member).2

/-- The items of a text are its pieces between the commas, each without the blanks at its ends. They
are one more than there are commas, hold no comma themselves, and keep what is between their ends as
it is. No other bare items without commas can be written, with blanks around them, as this text. -/
theorem items_are_trimmed_pieces (text : List Char) :
    items text = (text.splitOn ',').map trim ∧
      (items text).length = text.count ',' + 1 ∧
      (∀ item ∈ items text, ',' ∉ item ∧ Bare item) ∧
      List.Forall₂ BlanksAround (items text) (text.splitOn ',') ∧
      ∀ listed, items text = listed ↔
        Enumeration listed text ∧ ∀ item ∈ listed, ',' ∉ item ∧ Bare item := by
  refine ⟨items_eq text, length_items text, fun _ => bare_of_mem_items, blanksAround_items text,
    fun listed => ⟨?_, fun written => written.1.items_eq written.2⟩⟩
  rintro rfl
  exact ⟨enumeration_items text, fun _ => bare_of_mem_items⟩

def spacedText : List Char :=
  "a\t, \n,b \n c\u3000,".toList

def spacedItems : List (List Char) :=
  ["a", "", "b \n c", ""].map String.toList

/-- Blanks of any kind around the commas are lost, and those within an item stay, a line feed among
them. An item can be empty. -/
theorem items_keep_inner_lineFeed :
    Enumeration spacedItems spacedText ∧ (∀ item ∈ spacedItems, ',' ∉ item ∧ Bare item) ∧
      items spacedText = spacedItems ∧ "b \n c".toList ∈ items spacedText ∧
      ',' ∉ "b \n c".toList ∧ Bare "b \n c".toList := by
  have spaced : List.Forall₂ BlanksAround spacedItems
      (["a\t", " \n", "b \n c\u3000", ""].map String.toList) := by
    refine .cons ⟨[], ['\t'], ?_⟩ (.cons ⟨[' ', '\n'], [], ?_⟩
      (.cons ⟨[], ['\u3000'], ?_⟩ (.cons ⟨[], [], ?_⟩ .nil))) <;> decide
  have written : Enumeration spacedItems spacedText := .join (List.cons_ne_nil _ _) spaced
  have own : ∀ item ∈ spacedItems, ',' ∉ item ∧ Bare item := by decide
  obtain ⟨-, -, bare, -, read⟩ := items_are_trimmed_pieces spacedText
  have same : items spacedText = spacedItems := (read spacedItems).mpr ⟨written, own⟩
  have third : "b \n c".toList ∈ items spacedText := by
    rw [same]
    decide
  exact ⟨written, own, same, third, bare _ third⟩

end Selectivity.Text
