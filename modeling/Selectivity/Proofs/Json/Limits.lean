import Selectivity.Json.Reader

/-!
# Limits for digits

With a limit for the digits of a whole number a text is read as it is without one, or it is refused
because a number has too many digits.
-/

namespace Selectivity.Json

/-- Reading with a limit gives what reading without one gives, or finds too many digits. -/
def Limited {Read : Type} (limited free : Except ReadFault Read) : Prop :=
  limited = free ∨ limited = .error .tooManyDigits

theorem Limited.same {Read : Type} (reading : Except ReadFault Read) : Limited reading reading :=
  Or.inl rfl

theorem Limited.map {Read Other : Type} {limited free : Reading Read} (image : Read → Other)
    (near : Limited limited free) : Limited (limited.map image) (free.map image) := by
  rcases near with rfl | rfl
  · exact .same _
  · exact Or.inr rfl

variable (limit : Option Nat)

theorem wholeNumber_limited (negative : Bool) (digits : List Char) :
    Limited (wholeNumber limit negative digits) (wholeNumber none negative digits) := by
  rw [wholeNumber]
  split
  · exact Or.inr rfl
  · exact .same _

theorem readUnsigned?_limited (negative : Bool) (text : List Char) (other : Reading Json) :
    Limited ((readUnsigned? limit negative text).getD other)
      ((readUnsigned? none negative text).getD other) := by
  simp only [readUnsigned?]
  split
  · exact .same _
  · split
    · rcases wholeNumber_limited limit negative _ with same | told
      · rw [same]
        exact .same _
      · rw [told]
        exact Or.inr rfl
    · exact .same _

theorem readScalar_limited (text : List Char) :
    Limited (readScalar limit text) (readScalar none text) := by
  rw [readScalar.eq_def, readScalar.eq_def]
  split
  · exact .same _
  · exact readUnsigned?_limited limit true _ _
  · exact readUnsigned?_limited limit false _ _

variable {limit} {fuel : Nat}

theorem readValue_limited
    (items : ∀ text, Limited (readItems limit fuel text) (readItems none fuel text))
    (members : ∀ text, Limited (readMembers limit fuel text) (readMembers none fuel text))
    (text : List Char) :
    Limited (readValue limit (fuel + 1) text) (readValue none (fuel + 1) text) := by
  rw [readValue.eq_def, readValue.eq_def]
  split
  · next same => cases same
  · next same =>
      cases same
      split
      · exact .same _
      · exact (items _).map _
  · next same =>
      cases same
      split
      · exact .same _
      · exact (members _).map _
  · exact readScalar_limited limit _

theorem readItems_limited
    (value : ∀ text, Limited (readValue limit fuel text) (readValue none fuel text))
    (items : ∀ text, Limited (readItems limit fuel text) (readItems none fuel text))
    (text : List Char) :
    Limited (readItems limit (fuel + 1) text) (readItems none (fuel + 1) text) := by
  rw [readItems, readItems]
  rcases value text with same | told
  · rw [same]
    cases readValue none fuel text with
    | error fault => exact .same _
    | ok found =>
        simp only
        split
        · exact .same _
        · exact (items _).map _
        · exact .same _
  · rw [told]
    exact Or.inr rfl

theorem readMembers_limited
    (value : ∀ text, Limited (readValue limit fuel text) (readValue none fuel text))
    (members : ∀ text, Limited (readMembers limit fuel text) (readMembers none fuel text))
    (text : List Char) :
    Limited (readMembers limit (fuel + 1) text) (readMembers none (fuel + 1) text) := by
  rw [readMembers.eq_def, readMembers.eq_def]
  split
  · next same =>
      cases same
      split
      · exact .same _
      · split
        · next afterColon _ =>
            rcases value (skipBlanks afterColon) with same | told
            · rw [same]
              cases readValue none fuel (skipBlanks afterColon) with
              | error fault => exact .same _
              | ok found =>
                  simp only
                  split
                  · exact .same _
                  · exact (members _).map _
                  · exact .same _
            · rw [told]
              exact Or.inr rfl
        · exact .same _
  · exact .same _

theorem readings_limited (limit : Option Nat) (fuel : Nat) :
    (∀ text, Limited (readValue limit fuel text) (readValue none fuel text)) ∧
      (∀ text, Limited (readItems limit fuel text) (readItems none fuel text)) ∧
      ∀ text, Limited (readMembers limit fuel text) (readMembers none fuel text) := by
  induction fuel with
  | zero =>
      simp only [readValue, readItems, readMembers]
      exact ⟨fun _ => .same _, fun _ => .same _, fun _ => .same _⟩
  | succ fuel induction =>
      obtain ⟨value, items, members⟩ := induction
      exact ⟨readValue_limited items members, readItems_limited value items,
        readMembers_limited value members⟩

/-- A text that is JSON with numbers of any size is read as it is, unless a number has more digits
than the limit allows. -/
theorem readWithin_limited (limit : Option Nat) (text : List Char) :
    Limited (readWithin limit text) (readWithin none text) := by
  rw [readWithin, readWithin]
  rcases (readings_limited limit _).1 (skipBlanks text) with same | told
  · rw [same]
    exact .same _
  · rw [told]
    exact Or.inr rfl

end Selectivity.Json
