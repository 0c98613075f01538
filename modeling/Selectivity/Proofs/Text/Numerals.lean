import Mathlib.Algebra.Group.Nat.Defs
import Selectivity.Text.Numeral

/-!
# Written numbers

The digits of a number stand for the number, do not start with a needless zero, and are no more than
its size allows.
-/

namespace Selectivity.Text

theorem toNat_digitChar {value : Nat} (small : value < 10) :
    (digitChar value).toNat = '0'.toNat + value := by
  have all : ∀ value < 10, (digitChar value).toNat = '0'.toNat + value := by decide
  exact all value small

theorem isDigit_digitChar {value : Nat} (small : value < 10) :
    isDigit (digitChar value) = true := by
  have all : ∀ value < 10, isDigit (digitChar value) = true := by decide
  exact all value small

theorem digitsValue_concat (text : List Char) (character : Char) :
    digitsValue (text ++ [character]) =
      digitsValue text * 10 + (character.toNat - '0'.toNat) := by
  rw [digitsValue, List.foldl_append]
  rfl

theorem digitsValue_digits (number : Nat) : digitsValue (digits number) = number := by
  induction number using digits.induct with
  | case1 number small =>
      rw [digits, if_pos small]
      have read : digitsValue [digitChar number] = (digitChar number).toNat - '0'.toNat := by
        rw [digitsValue, List.foldl_cons, List.foldl_nil, Nat.zero_mul, Nat.zero_add]
      rw [read, toNat_digitChar small, Nat.add_sub_cancel_left]
  | case2 number large induction =>
      have least : number % 10 < 10 := Nat.mod_lt number (by decide)
      rw [digits, if_neg large, digitsValue_concat, induction, toNat_digitChar least,
        Nat.add_sub_cancel_left]
      omega

theorem isDigit_of_mem_digits {number : Nat} :
    ∀ character ∈ digits number, isDigit character = true := by
  induction number using digits.induct with
  | case1 number small =>
      rw [digits, if_pos small]
      intro character member
      rw [List.mem_singleton.mp member]
      exact isDigit_digitChar small
  | case2 number large induction =>
      rw [digits, if_neg large]
      intro character member
      rcases List.mem_append.mp member with before | last
      · exact induction character before
      · rw [List.mem_singleton.mp last]
        exact isDigit_digitChar (Nat.mod_lt number (by decide))

theorem digits_cases (number : Nat) :
    digits number = ['0'] ∨ ∃ first rest, digits number = first :: rest ∧ first ≠ '0' := by
  induction number using digits.induct with
  | case1 number small =>
      have all : ∀ number < 10, digitChar number = '0' ∨ digitChar number ≠ '0' := by decide
      rw [digits, if_pos small]
      rcases all number small with zero | other
      · exact Or.inl (by rw [zero])
      · exact Or.inr ⟨_, [], rfl, other⟩
  | case2 number large induction =>
      rw [digits, if_neg large]
      rcases induction with zero | ⟨first, rest, split, other⟩
      · -- the number would be below ten if nothing but a zero stood before its last digit
        have value := digitsValue_digits (number / 10)
        rw [zero] at value
        have none : number / 10 = 0 := value.symm
        omega
      · refine Or.inr ⟨first, rest ++ [digitChar (number % 10)], ?_, other⟩
        rw [split, List.cons_append]

theorem length_digits_le {number most : Nat} (positive : 0 < most)
    (bounded : number < 10 ^ most) : (digits number).length ≤ most := by
  induction number using digits.induct generalizing most with
  | case1 number small =>
      rw [digits, if_pos small]
      exact positive
  | case2 number large induction =>
      rw [digits, if_neg large, List.length_append, List.length_singleton]
      cases most with
      | zero => exact absurd positive (Nat.lt_irrefl 0)
      | succ most =>
          rw [Nat.pow_succ] at bounded
          have further : 0 < most := by
            refine Nat.pos_of_ne_zero fun none => large ?_
            rw [none] at bounded
            omega
          exact Nat.succ_le_succ (induction further (by omega))

theorem exceeds_digits_of_lt {number most : Nat} (positive : 0 < most)
    (bounded : number < 10 ^ most) : exceeds (some most) (digits number) = false := by
  have fewer := List.countP_le_length (p := (· != '_')) (l := digits number)
  have short := length_digits_le positive bounded
  exact decide_eq_false (Nat.not_lt.mpr (Nat.le_trans fewer short))

theorem exceeds_digits_eq_false {number : Nat} (writable : exceedsDigits number = false) :
    exceeds (some digitLimit) (digits number) = false := by
  have positive : 0 < digitLimit := by decide
  rw [exceedsDigits_eq_false_iff] at writable
  generalize digitLimit = most at *
  exact exceeds_digits_of_lt positive (Nat.lt_of_not_le writable)

theorem pos_of_exceedsDigits {number : Nat} (tooLong : exceedsDigits number = true) :
    0 < number := by
  rw [exceedsDigits_eq_true_iff] at tooLong
  exact Nat.lt_of_lt_of_le (Nat.pow_pos (by decide)) tooLong

theorem exceedsDigits_of_le {number larger : Nat} (least : number ≤ larger)
    (writable : exceedsDigits larger = false) : exceedsDigits number = false := by
  rw [exceedsDigits_eq_false_iff] at writable ⊢
  generalize Nat.pow 10 digitLimit = limit at *
  exact fun long => writable (Nat.le_trans long least)

end Selectivity.Text
