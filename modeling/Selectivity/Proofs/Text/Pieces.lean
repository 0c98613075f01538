import Selectivity.Proofs.Text.Blanks
import Selectivity.Text.Items
import Selectivity.Text.Lines

/-!
# Pieces of a text

Cutting a list at its separators, with the blanks around them, comes to the same as cutting it at
its commas and trimming every piece. Hence what is written around an item does not count, as long
as it is blank.
-/

namespace Selectivity.Text

theorem splitAt_eq_splitOn (separator : Char) (text : List Char) :
    splitAt separator text = text.splitOn separator := by
  induction text with
  | nil => rfl
  | cons character rest induction =>
      rw [splitAt, List.splitOn_cons_eq_if_modifyHead, induction]
      by_cases same : character = separator
      · rw [if_pos same, if_pos (beq_iff_eq.mpr same)]
      · rw [if_neg same, if_neg fun equal => same (beq_iff_eq.mp equal)]
        cases pieces : rest.splitOn separator with
        | nil => exact absurd pieces (List.splitOn_ne_nil separator rest)
        | cons piece pieces => rfl

theorem length_splitOn (separator : Char) (text : List Char) :
    (text.splitOn separator).length = text.count separator + 1 := by
  induction text with
  | nil => rfl
  | cons character rest induction =>
      rw [List.splitOn_cons_eq_if_modifyHead, List.count_cons]
      split
      · rw [List.length_cons, induction]
      · rw [List.length_modifyHead, induction, Nat.add_zero]

theorem not_mem_of_mem_splitAt {separator : Char} {text piece : List Char}
    (member : piece ∈ splitAt separator text) : separator ∉ piece := by
  induction text generalizing piece with
  | nil =>
      rw [List.mem_singleton.mp member]
      exact List.not_mem_nil
  | cons character rest induction =>
      rw [splitAt] at member
      split at member
      · rcases List.mem_cons.mp member with rfl | later
        · exact List.not_mem_nil
        · exact induction later
      · next other =>
          split at member
          · next first pieces split =>
              rw [split] at induction
              rcases List.mem_cons.mp member with rfl | later
              · rw [List.mem_cons, not_or]
                exact ⟨fun same => other same.symm, induction List.mem_cons_self⟩
              · exact induction (List.mem_cons_of_mem first later)
          · rw [List.mem_singleton.mp member]
            exact fun same => other (List.mem_singleton.mp same).symm

theorem splitOn_append_left {separator : Char} {front : List Char} (free : separator ∉ front)
    (text : List Char) :
    (front ++ text).splitOn separator = (text.splitOn separator).modifyHead (front ++ ·) := by
  induction front with
  | nil => exact (congrFun List.modifyHead_id _).symm
  | cons character rest induction =>
      rw [List.mem_cons, not_or] at free
      have different : ¬ (character == separator) = true :=
        fun equal => free.1 (beq_iff_eq.mp equal).symm
      rw [List.cons_append, List.splitOn_cons_eq_if_modifyHead, if_neg different,
        induction free.2, List.modifyHead_modifyHead]
      rfl

theorem splitOn_append_right {separator : Char} (text : List Char) {back : List Char}
    (free : separator ∉ back) :
    ∃ pieces last, text.splitOn separator = pieces ++ [last] ∧
      (text ++ back).splitOn separator = pieces ++ [last ++ back] := by
  induction text with
  | nil => exact ⟨[], [], rfl, List.splitOn_eq_singleton free⟩
  | cons character rest induction =>
      obtain ⟨pieces, last, alone, together⟩ := induction
      rw [List.cons_append, List.splitOn_cons_eq_if_modifyHead,
        List.splitOn_cons_eq_if_modifyHead, alone, together]
      split
      · exact ⟨[] :: pieces, last, rfl, rfl⟩
      · cases pieces with
        | nil => exact ⟨[], character :: last, rfl, rfl⟩
        | cons piece pieces => exact ⟨(character :: piece) :: pieces, last, rfl, rfl⟩

theorem comma_not_mem_of_blank {blanks : List Char}
    (blank : ∀ character ∈ blanks, isBlank character = true) : ',' ∉ blanks :=
  fun member => absurd (blank ',' member) (by decide)

theorem map_trim_splitOn_append_left {blanks : List Char}
    (blank : ∀ character ∈ blanks, isBlank character = true) (text : List Char) :
    ((blanks ++ text).splitOn ',').map trim = (text.splitOn ',').map trim := by
  rw [splitOn_append_left (comma_not_mem_of_blank blank)]
  cases text.splitOn ',' with
  | nil => rfl
  | cons piece pieces =>
      rw [List.modifyHead_cons, List.map_cons, List.map_cons, trim_append_left blank]

theorem map_trim_splitOn_append_right (text : List Char) {blanks : List Char}
    (blank : ∀ character ∈ blanks, isBlank character = true) :
    ((text ++ blanks).splitOn ',').map trim = (text.splitOn ',').map trim := by
  obtain ⟨pieces, last, alone, together⟩ :=
    splitOn_append_right text (comma_not_mem_of_blank blank)
  rw [alone, together, List.map_append, List.map_append, List.map_singleton, List.map_singleton,
    trim_append_right last blank]

theorem map_trim_splitOn_trimStart (text : List Char) :
    ((trimStart text).splitOn ',').map trim = (text.splitOn ',').map trim := by
  obtain ⟨blanks, blank, whole⟩ := exists_blanks_append text
  have same := map_trim_splitOn_append_left blank (trimStart text)
  rw [← whole] at same
  exact same.symm

theorem map_trim_splitOn_trim (text : List Char) :
    ((trim text).splitOn ',').map trim = (text.splitOn ',').map trim := by
  obtain ⟨blanks, blank, whole⟩ := exists_trim_append text
  rw [← map_trim_splitOn_trimStart text, whole]
  exact (map_trim_splitOn_append_right (trim text) blank).symm

theorem afterSeparator?_eq_some {text rest : List Char} (found : afterSeparator? text = some rest) :
    ∃ blanks tail, (∀ character ∈ blanks, isBlank character = true) ∧
      text = blanks ++ ',' :: tail ∧ rest = trimStart tail := by
  obtain ⟨blanks, blank, whole⟩ := exists_blanks_append text
  unfold afterSeparator? at found
  split at found
  · next tail comma =>
      cases found
      rw [comma] at whole
      exact ⟨blanks, tail, blank, whole, rfl⟩
  · cases found

/-- Cutting at separators and trimming comes to cutting at commas and trimming; the current item
is what stands in front of the text. -/
theorem map_trim_cutItems {item : List Char} (text : List Char) (free : ',' ∉ item) :
    (cutItems item text).map trim = ((item.reverse ++ text).splitOn ',').map trim := by
  induction item, text using cutItems.induct with
  | case1 item text rest found induction =>
      obtain ⟨blanks, tail, blank, rfl, rfl⟩ := afterSeparator?_eq_some found
      have inFront : ',' ∉ item.reverse ++ blanks := by
        rw [List.mem_append, not_or]
        exact ⟨fun member => free (List.mem_reverse.mp member), comma_not_mem_of_blank blank⟩
      rw [cutItems]
      split
      · next other again =>
          rw [found] at again
          cases again
          rw [← List.append_assoc, List.splitOn_append_cons_self_of_not_mem inFront, List.map_cons,
            List.map_cons, trim_append_right _ blank, induction List.not_mem_nil]
          exact congrArg (List.cons _) (map_trim_splitOn_trimStart tail)
      · next none =>
          rw [found] at none
          cases none
  | case2 item none =>
      have reversed : ',' ∉ item.reverse := fun member => free (List.mem_reverse.mp member)
      rw [cutItems]
      split
      · next other again =>
          rw [none] at again
          cases again
      · rw [List.append_nil, List.splitOn_eq_singleton reversed]
  | case3 item character rest none induction =>
      have other : ',' ≠ character := by
        rintro rfl
        cases none
      rw [cutItems]
      split
      · next after again =>
          rw [none] at again
          cases again
      · rw [induction (fun member => ?_), List.reverse_cons, List.append_assoc]
        · rfl
        · exact (List.mem_cons.mp member).elim other free

theorem items_eq (text : List Char) : items text = (text.splitOn ',').map trim := by
  rw [items, map_trim_cutItems _ List.not_mem_nil]
  exact map_trim_splitOn_trim text

theorem items_trimStart (text : List Char) : items (trimStart text) = items text := by
  rw [items_eq, items_eq, map_trim_splitOn_trimStart]

theorem items_ne_nil (text : List Char) : items text ≠ [] := by
  rw [items_eq]
  exact fun none => List.splitOn_ne_nil ',' text (List.map_eq_nil_iff.mp none)

/-- Only what follows the last character that is no carriage return can be dropped. -/
theorem dropReturns_append {character : Char} (other : character ≠ '\r')
    (front ending : List Char) :
    dropReturns (front ++ character :: ending) = front ++ character :: dropReturns ending := by
  have kept : (character :: front.reverse).dropWhile (· == '\r') = character :: front.reverse :=
    List.dropWhile_cons_of_neg fun same => other (beq_iff_eq.mp same)
  rw [dropReturns, dropReturns, List.reverse_append, List.reverse_cons, List.append_assoc,
    List.singleton_append, List.dropWhile_append, kept]
  split
  · next none =>
      rw [List.isEmpty_iff.mp none, List.reverse_cons, List.reverse_reverse]
      rfl
  · rw [List.reverse_append, List.reverse_cons, List.reverse_reverse, List.append_assoc]
    rfl

theorem mem_of_mem_dropReturns {text : List Char} {character : Char}
    (member : character ∈ dropReturns text) : character ∈ text :=
  List.mem_reverse.mp
    ((List.dropWhile_sublist _).subset (List.mem_reverse.mp member))

theorem lineFeed_not_mem_of_mem_lines {text line : List Char} (member : line ∈ lines text) :
    '\n' ∉ line := by
  obtain ⟨piece, kept, rfl⟩ := List.mem_map.mp member
  exact fun feed =>
    not_mem_of_mem_splitAt (List.mem_filter.mp kept).1 (mem_of_mem_dropReturns feed)

/-- The lines of a text that was put together from lines, none of them blank. A line feed at the
end does not count. -/
theorem lines_intercalate {rows : List (List Char)} {ending : List Char} (nonempty : rows ≠ [])
    (free : ∀ row ∈ rows, '\n' ∉ row) (solid : ∀ row ∈ rows, row.all isBlank = false)
    (closed : ending = [] ∨ ending = ['\n']) :
    lines (['\n'].intercalate rows ++ ending) = rows.map dropReturns := by
  have kept : (rows.filter fun row => !row.all isBlank) = rows :=
    List.filter_eq_self.mpr fun row member => by rw [solid row member]; rfl
  have pieces := List.splitOn_intercalate '\n' free nonempty
  rw [lines, splitAt_eq_splitOn]
  rcases closed with rfl | rfl
  · rw [List.append_nil, pieces, kept]
  · rw [List.splitOn_append_cons_self, pieces, List.filter_append, kept]
    exact congrArg (List.map dropReturns) (List.append_nil rows)

end Selectivity.Text
