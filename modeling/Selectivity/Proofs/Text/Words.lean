import Selectivity.Text.Blank
import Selectivity.Text.Word

/-!
# Words and blanks

No character is both a blank and a part of a word. A word that is followed by another character
can be told from what follows.
-/

namespace Selectivity.Text

theorem CodeRanges.mem_of_contains {ranges : CodeRanges} {point : Nat}
    (within : ranges.contains point = true) :
    point ∈ ranges.flatMap fun range => List.range' range.1 (range.2 + 1 - range.1) := by
  induction ranges with
  | nil => cases within
  | cons range rest induction =>
      rw [CodeRanges.contains] at within
      rw [List.flatMap_cons, List.mem_append]
      split at within
      · cases within
      · next notBelow =>
          split at within
          · next notAbove =>
              exact Or.inl (List.mem_range'_1.mpr (by omega))
          · exact Or.inr (induction within)

theorem not_word_of_blank {character : Char} (blank : isBlank character = true) :
    isWordChar character = false := by
  have none : ∀ point ∈ blankRanges.flatMap fun range =>
      List.range' range.1 (range.2 + 1 - range.1), isWordChar (Char.ofNat point) = false := by
    decide +kernel
  have listed := none character.toNat (CodeRanges.mem_of_contains blank)
  rw [Char.ofNat_toNat] at listed
  exact listed

theorem not_blank_of_word {character : Char} (word : isWordChar character = true) :
    isBlank character = false := by
  cases blank : isBlank character with
  | false => rfl
  | true =>
      rw [not_word_of_blank blank] at word
      cases word

theorem isWord_iff {text : List Char} :
    isWord text = true ↔ text ≠ [] ∧ ∀ character ∈ text, isWordChar character = true := by
  rw [isWord, Bool.and_eq_true, Bool.not_eq_true', List.all_eq_true, ← Bool.not_eq_true,
    List.isEmpty_iff]

theorem not_mem_of_isWord {text : List Char} {character : Char} (word : isWord text = true)
    (other : isWordChar character = false) : character ∉ text := by
  intro member
  rw [(isWord_iff.mp word).2 character member] at other
  cases other

theorem span_word {text : List Char} (word : ∀ character ∈ text, isWordChar character = true)
    {next : Char} (stop : isWordChar next = false) (rest : List Char) :
    (text ++ next :: rest).span isWordChar = (text, next :: rest) := by
  have loop : ∀ before, List.span.loop isWordChar (text ++ next :: rest) before =
      (before.reverse ++ text, next :: rest) := by
    induction text with
    | nil =>
        intro before
        change (match isWordChar next with
          | true => List.span.loop isWordChar rest (next :: before)
          | false => (before.reverse, next :: rest)) = _
        rw [stop, List.append_nil]
    | cons character others induction =>
        intro before
        have later := induction (fun other member => word other (List.mem_cons_of_mem _ member))
          (character :: before)
        rw [List.reverse_cons, List.append_assoc] at later
        change (match isWordChar character with
          | true => List.span.loop isWordChar (others ++ next :: rest) (character :: before)
          | false => (before.reverse, character :: (others ++ next :: rest))) = _
        rw [word character List.mem_cons_self]
        exact later
  exact loop []

end Selectivity.Text
