import Mathlib.Data.List.TakeDrop
import Selectivity.Proofs.Query.RoundTrip

/-!
# The written forms of conditions

A condition has one written form. Whatever is read as a condition is the form of that condition, and
everything else is refused as it stands. A clause reads its items one by one, and a JOIN clause
reads as comparisons exactly what a WHERE clause reads as comparisons of attributes.
-/

namespace Selectivity.Query

open Text

/-- Reads one item of a clause, or refuses it as it stands. -/
def readItem {Form : Type} (form? : List Char → Option Form) (refusal : String → QueryFault)
    (item : String) : Except QueryFault Form :=
  match form? item.toList with
  | some form => .ok form
  | none => .error (refusal item)

/-- Reads one item of a WHERE clause. -/
def readCondition : String → Except QueryFault Predicate :=
  readItem condition? .wherePredicate

/-- Reads one item of a JOIN clause. -/
def readComparison : String → Except QueryFault Comparison :=
  readItem comparison? .joinPredicate

theorem readConditions_eq_mapM (texts : List String) :
    readConditions (texts.map String.toList) = texts.mapM readCondition := by
  induction texts with
  | nil => rfl
  | cons text rest induction =>
      rw [List.map_cons, readConditions, List.mapM_cons, induction, readCondition, readItem,
        String.ofList_toList]
      cases condition? text.toList with
      | none => rfl
      | some condition => cases rest.mapM (readItem condition? .wherePredicate) <;> rfl

theorem readComparisons_eq_mapM (texts : List String) :
    readComparisons (texts.map String.toList) = texts.mapM readComparison := by
  induction texts with
  | nil => rfl
  | cons text rest induction =>
      rw [List.map_cons, readComparisons, List.mapM_cons, induction, readComparison, readItem,
        String.ofList_toList]
      cases comparison? text.toList with
      | none => rfl
      | some comparison => cases rest.mapM (readItem comparison? .joinPredicate) <;> rfl

section Item

variable {Form : Type} {form? : List Char → Option Form} {refusal : String → QueryFault}
  {item : String}

theorem readItem_eq_ok_iff {form : Form} :
    readItem form? refusal item = .ok form ↔ form? item.toList = some form := by
  rw [readItem]
  cases form? item.toList with
  | none => exact iff_of_false nofun nofun
  | some found => rw [Except.ok.injEq, Option.some.injEq]

theorem readItem_eq_error_iff :
    readItem form? refusal item = .error (refusal item) ↔
      ¬ ∃ form, readItem form? refusal item = .ok form := by
  rw [readItem]
  cases form? item.toList with
  | none => exact iff_of_true rfl nofun
  | some found => exact iff_of_false nofun fun unread => unread ⟨found, rfl⟩

end Item

theorem span_eq_append {text front behind : List Char}
    (split : text.span isWordChar = (front, behind)) : text = front ++ behind := by
  rw [List.span_eq_takeWhile_dropWhile, Prod.mk.injEq] at split
  rw [← split.1, ← split.2, List.takeWhile_append_dropWhile]

theorem render_of_comparison? {text : List Char} {comparison : Comparison}
    (read : comparison? text = some comparison) : comparison.render.toList = text := by
  unfold comparison? at read
  split at read
  · next left right split =>
      split at read
      · cases read
        rw [span_eq_append split, toList_render, String.toList_ofList, String.toList_ofList]
      · cases read
  · cases read

theorem render_of_valueCondition? {text : List Char} {condition : Predicate}
    (read : valueCondition? text = some condition) : condition.render.toList = text := by
  unfold valueCondition? at read
  split at read
  · next column rest split =>
      split at read
      · next value last =>
          split at read
          · cases read
            rw [span_eq_append split, span_eq_append last, toList_render_equalsValue,
              String.toList_ofList, String.toList_ofList]
          · cases read
      · cases read
  · cases read

theorem render_of_condition? {text : List Char} {condition : Predicate}
    (read : condition? text = some condition) : condition.render.toList = text := by
  rcases Option.or_eq_some_iff.mp read with value | ⟨-, both⟩
  · exact render_of_valueCondition? value
  · obtain ⟨comparison, found, rfl⟩ := Option.map_eq_some_iff.mp both
    exact render_of_comparison? found

/-- A text is read as a comparison exactly if it is the written form of that comparison between
words. -/
theorem comparison?_eq_some_iff {text : String} {comparison : Comparison} :
    comparison? text.toList = some comparison ↔
      (Word comparison.left ∧ Word comparison.right) ∧ comparison.render = text := by
  constructor
  · intro read
    exact ⟨comparison?_words read, String.toList_inj.mp (render_of_comparison? read)⟩
  · rintro ⟨words, rfl⟩
    exact comparison?_render words.1 words.2

/-- A text is read as a condition exactly if it is the written form of that condition in words. -/
theorem condition?_eq_some_iff {text : String} {condition : Predicate} :
    condition? text.toList = some condition ↔
      (Word condition.parts.1 ∧ Word condition.parts.2) ∧ condition.render = text := by
  constructor
  · intro read
    exact ⟨condition?_words read, String.toList_inj.mp (render_of_condition? read)⟩
  · rintro ⟨words, rfl⟩
    exact condition?_render words.1 words.2

theorem readCondition_eq_ok_iff {item : String} {condition : Predicate} :
    readCondition item = .ok condition ↔
      (Word condition.parts.1 ∧ Word condition.parts.2) ∧ condition.render = item :=
  readItem_eq_ok_iff.trans condition?_eq_some_iff

theorem readComparison_eq_ok_iff {item : String} {comparison : Comparison} :
    readComparison item = .ok comparison ↔
      (Word comparison.left ∧ Word comparison.right) ∧ comparison.render = item :=
  readItem_eq_ok_iff.trans comparison?_eq_some_iff

/-- Each item of a clause is read by itself, and reading is the inverse of writing: an item is read
as a condition exactly if the condition is made of words and the item is its written form, and any
other item is refused as it stands. A JOIN clause reads those items as comparisons that a WHERE
clause reads as comparisons. -/
theorem conditions_are_read_as_written (item : String) :
    (∀ texts : List String,
      readConditions (texts.map String.toList) = texts.mapM readCondition ∧
        readComparisons (texts.map String.toList) = texts.mapM readComparison) ∧
    (∀ condition, readCondition item = .ok condition ↔
      (Word condition.parts.1 ∧ Word condition.parts.2) ∧ condition.render = item) ∧
    (readCondition item = .error (.wherePredicate item) ↔
      ¬ ∃ condition : Predicate, (Word condition.parts.1 ∧ Word condition.parts.2) ∧
        condition.render = item) ∧
    (∀ comparison, readComparison item = .ok comparison ↔
      (Word comparison.left ∧ Word comparison.right) ∧ comparison.render = item) ∧
    (readComparison item = .error (.joinPredicate item) ↔
      ¬ ∃ comparison : Comparison, (Word comparison.left ∧ Word comparison.right) ∧
        comparison.render = item) ∧
    ∀ comparison, readComparison item = .ok comparison ↔
      readCondition item = .ok (.equalsAttribute comparison) := by
  refine ⟨fun texts => ⟨readConditions_eq_mapM texts, readComparisons_eq_mapM texts⟩,
    fun _ => readCondition_eq_ok_iff, ?_, fun _ => readComparison_eq_ok_iff, ?_, ?_⟩
  · exact readItem_eq_error_iff.trans (not_congr (exists_congr fun _ => readCondition_eq_ok_iff))
  · exact readItem_eq_error_iff.trans (not_congr (exists_congr fun _ => readComparison_eq_ok_iff))
  · intro comparison
    rw [readComparison_eq_ok_iff, readCondition_eq_ok_iff]
    exact Iff.rfl

example : readCondition "a=\"b\"" = .ok (.equalsValue "a" "b") := rfl

end Selectivity.Query
