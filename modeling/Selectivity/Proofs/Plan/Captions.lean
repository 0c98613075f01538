import Selectivity.Proofs.Plan.Equality
import Selectivity.Proofs.Query.RoundTrip

/-!
# Captions

A caption is made of the names and literals of an operator and of a few marks. If these texts are
words, then the caption tells what the operator does: the name of a scan is the only caption that is
a word, the first character of any other one tells the kind, and what stands between its brackets
can be read back.
-/

namespace Selectivity

theorem Text.mem_intercalate {separator : String} {texts : List String} {character : Char}
    (member : character ∈ (separator.intercalate texts).toList) :
    character ∈ separator.toList ∨ ∃ text ∈ texts, character ∈ text.toList := by
  induction texts with
  | nil =>
      rw [String.intercalate_nil] at member
      cases member
  | cons text rest induction =>
      by_cases last : rest = []
      · rw [last, String.intercalate_singleton] at member
        exact Or.inr ⟨text, List.mem_cons_self, member⟩
      · rw [String.intercalate_cons_of_ne_nil last, String.toList_append, String.toList_append,
          List.mem_append, List.mem_append] at member
        rcases member with (here | between) | later
        · exact Or.inr ⟨text, List.mem_cons_self, here⟩
        · exact Or.inl between
        · refine (induction later).imp_right ?_
          rintro ⟨other, within, there⟩
          exact ⟨other, List.mem_cons_of_mem text within, there⟩

theorem Predicate.mem_render {condition : Predicate} {character : Char}
    (member : character ∈ condition.render.toList) :
    character ∈ "=\"".toList ∨ character ∈ condition.parts.1.toList ∨
      character ∈ condition.parts.2.toList := by
  cases condition with
  | equalsValue column value =>
      simp only [render, String.toList_append, List.mem_append] at member
      rcases member with ((first | mark) | second) | mark
      · exact Or.inr (Or.inl first)
      · exact Or.inl mark
      · exact Or.inr (Or.inr second)
      · exact Or.inl (List.mem_cons_of_mem _ mark)
  | equalsAttribute comparison =>
      simp only [render, Comparison.render, String.toList_append, List.mem_append] at member
      rcases member with (first | mark) | second
      · exact Or.inr (Or.inl first)
      · exact Or.inl (List.mem_append_left ['"'] mark)
      · exact Or.inr (Or.inr second)

namespace Operator

variable {Base Other : Type}

/-- The names and literals of an operator. -/
def texts : Operator Base → List String
  | .scan name _ => [name]
  | .project attributes => attributes
  | .select none => []
  | .select (some condition) => [condition.parts.1, condition.parts.2]
  | .product => []
  | .join condition => [condition.left, condition.right]
  | .foreign _ => []

/-- The characters that stand in captions around the names and literals. -/
def captionMarks : List Char :=
  "πσ⨯⋈? (),=\"None".toList

theorem mem_bracketed {opening : String} {inside : String} {texts : List String} {character : Char}
    (marks : opening.toList ⊆ captionMarks)
    (within : character ∈ inside.toList →
      character ∈ captionMarks ∨ ∃ text ∈ texts, character ∈ text.toList)
    (member : character ∈ (opening ++ inside ++ ")").toList) :
    character ∈ captionMarks ∨ ∃ text ∈ texts, character ∈ text.toList := by
  rw [String.toList_append, String.toList_append, List.mem_append, List.mem_append] at member
  rcases member with (mark | inner) | mark
  · exact Or.inl (marks mark)
  · exact within inner
  · rw [List.mem_singleton.mp mark]
    exact Or.inl (by decide)

theorem mem_condition (condition : Predicate) {character : Char}
    (member : character ∈ condition.render.toList) : character ∈ captionMarks ∨
      ∃ text ∈ [condition.parts.1, condition.parts.2], character ∈ text.toList := by
  rcases condition.mem_render member with mark | first | second
  · have marks : "=\"".toList ⊆ captionMarks := by decide
    exact Or.inl (marks mark)
  · exact Or.inr ⟨_, List.mem_cons_self, first⟩
  · exact Or.inr ⟨_, List.mem_cons_of_mem _ List.mem_cons_self, second⟩

theorem mem_caption {operator : Operator Base} {character : Char}
    (member : character ∈ operator.caption.toList) :
    character ∈ captionMarks ∨ ∃ text ∈ operator.texts, character ∈ text.toList := by
  cases operator with
  | scan name base => exact Or.inr ⟨name, List.mem_cons_self, member⟩
  | project attributes =>
      refine mem_bracketed (by decide) (fun inner => ?_) member
      refine (Text.mem_intercalate inner).imp_left fun mark => ?_
      have marks : ", ".toList ⊆ captionMarks := by decide
      exact marks mark
  | select condition =>
      cases condition with
      | none =>
          have marks : "σ (None)".toList ⊆ captionMarks := by decide
          exact Or.inl (marks member)
      | some condition => exact mem_bracketed (by decide) (mem_condition condition) member
  | product =>
      have marks : "⨯".toList ⊆ captionMarks := by decide
      exact Or.inl (marks member)
  | join condition =>
      exact mem_bracketed (by decide) (mem_condition (.equalsAttribute condition)) member
  | «foreign» kind =>
      have marks : "?".toList ⊆ captionMarks := by decide
      exact Or.inl (marks member)

/-- The name of the kind of operator that has a caption. -/
def captionKind : List Char → String
  | ['⨯'] => "Product"
  | 'π' :: ' ' :: _ => "Project"
  | 'σ' :: ' ' :: _ => "Select"
  | '⋈' :: ' ' :: _ => "Join"
  | _ => "Scan"

/-- A word is the caption of a scan, also if it begins with the sign of another kind. -/
theorem captionKind_word {name : String} (word : Query.Word name) :
    captionKind name.toList = "Scan" := by
  have noSpace : ' ' ∉ name.toList := Text.not_mem_of_isWord word (by decide)
  have noProduct : '⨯' ∉ name.toList := Text.not_mem_of_isWord word (by decide +kernel)
  unfold captionKind
  split
  case h_1 same => exact absurd (same ▸ List.mem_cons_self) noProduct
  case h_5 => rfl
  all_goals
    next same =>
      exact absurd (same ▸ List.mem_cons_of_mem _ List.mem_cons_self) noSpace

theorem captionKind_caption {operator : Operator Base} (native : operator.isNative = true)
    (words : ∀ text ∈ operator.texts, Query.Word text) :
    captionKind operator.caption.toList = operator.kind := by
  cases operator with
  | scan name base => exact captionKind_word (words name List.mem_cons_self)
  | project attributes =>
      rw [caption, String.toList_append, String.toList_append]
      rfl
  | select condition =>
      cases condition with
      | none => exact (by decide : captionKind "σ (None)".toList = "Select")
      | some condition =>
          rw [caption, String.toList_append, String.toList_append]
          rfl
  | product => exact (by decide : captionKind "⨯".toList = "Product")
  | join condition =>
      rw [caption, String.toList_append, String.toList_append]
      rfl
  | «foreign» kind => exact absurd native Bool.false_ne_true

end Operator

namespace Query

theorem listed_intercalate (name : String) (rest : List String) :
    Listed (name :: rest) (String.intercalate ", " (name :: rest)).toList := by
  induction rest generalizing name with
  | nil =>
      rw [String.intercalate_singleton]
      exact .single name
  | cons other rest induction =>
      rw [String.intercalate_cons_cons, String.toList_append, String.toList_append,
        List.append_assoc]
      exact @Listed.cons name [] [' '] _ _ (by decide) (by decide) (induction other)

theorem intercalate_ne_empty {name : String} {rest : List String}
    (words : ∀ text ∈ name :: rest, Word text) :
    String.intercalate ", " [] ≠ String.intercalate ", " (name :: rest) := by
  intro same
  obtain ⟨character, behind, start, -⟩ :=
    (listed_intercalate name rest).exists_start fun text member => (words text member).item
  rw [← same] at start
  cases start

theorem intercalate_words_injective {names others : List String}
    (words : ∀ name ∈ names, Word name) (otherWords : ∀ other ∈ others, Word other)
    (same : String.intercalate ", " names = String.intercalate ", " others) : names = others := by
  cases names with
  | nil =>
      cases others with
      | nil => rfl
      | cons other rest => exact absurd same (intercalate_ne_empty otherWords)
  | cons name rest =>
      cases others with
      | nil => exact absurd same.symm (intercalate_ne_empty words)
      | cons other others =>
          have here := (listed_intercalate name rest).items_eq fun text member =>
            (words text member).item
          have there := (listed_intercalate other others).items_eq fun text member =>
            (otherWords text member).item
          rw [same, there] at here
          exact (List.map_inj_right fun _ _ => String.toList_inj.mp).mp here.symm

theorem render_words_injective {condition other : Predicate}
    (words : Word condition.parts.1 ∧ Word condition.parts.2)
    (otherWords : Word other.parts.1 ∧ Word other.parts.2)
    (same : condition.render = other.render) : condition = other := by
  have here := condition?_render words.1 words.2
  rw [same, condition?_render otherWords.1 otherWords.2] at here
  exact (Option.some.inj here).symm

theorem none_ne_render (condition : Predicate) : "None" ≠ condition.render := by
  intro same
  have equals : '=' ∈ condition.render.toList := by
    cases condition <;> simp [Predicate.render, Comparison.render]
  rw [← same] at equals
  exact absurd equals (by decide)

end Query

namespace Operator

variable {Base Other : Type}

@[simp]
theorem caption_bare (operator : Operator Base) : operator.bare.caption = operator.caption := by
  cases operator with
  | select condition => cases condition <;> rfl
  | _ => rfl

theorem exists_caption_start {operator : Operator Base}
    (words : ∀ text ∈ operator.texts, Query.Word text) :
    ∃ first rest, operator.caption.toList = first :: rest ∧ first ≠ ' ' := by
  cases operator with
  | scan name base =>
      have word := (words name List.mem_cons_self).item
      obtain ⟨first, rest, same⟩ := List.exists_cons_of_ne_nil word.nonempty
      refine ⟨first, rest, same, ?_⟩
      rintro rfl
      have solid := word.solid ' ' (same ▸ List.mem_cons_self)
      exact absurd solid (by decide)
  | project attributes =>
      rw [caption, String.toList_append, String.toList_append]
      exact ⟨'π', _, rfl, by decide⟩
  | select condition =>
      cases condition with
      | none =>
          have start : "σ (None)".toList = 'σ' :: " (None)".toList := by decide
          exact ⟨'σ', _, start, by decide⟩
      | some condition =>
          rw [caption, String.toList_append, String.toList_append]
          exact ⟨'σ', _, rfl, by decide⟩
  | product => exact ⟨'⨯', [], (by decide : "⨯".toList = ['⨯']), by decide⟩
  | join condition =>
      rw [caption, String.toList_append, String.toList_append]
      exact ⟨'⋈', _, rfl, by decide⟩
  | «foreign» kind => exact ⟨'?', [], (by decide : "?".toList = ['?']), by decide⟩

theorem bracketed_injective {opening inside other : String}
    (same : opening ++ inside ++ ")" = opening ++ other ++ ")") : inside = other := by
  rw [String.append_left_inj, String.append_right_inj] at same
  exact same

/-- Over words, operators of the five kinds have one caption only if they do the same. -/
theorem bare_eq_of_caption_eq {left : Operator Base} {right : Operator Other}
    (leftNative : left.isNative = true) (rightNative : right.isNative = true)
    (leftWords : ∀ text ∈ left.texts, Query.Word text)
    (rightWords : ∀ text ∈ right.texts, Query.Word text) (same : left.caption = right.caption) :
    left.bare = right.bare := by
  have kinds : left.kind = right.kind := by
    rw [← captionKind_caption leftNative leftWords, same,
      captionKind_caption rightNative rightWords]
  have pair {texts : List String} {first second : String}
      (words : ∀ text ∈ first :: second :: texts, Query.Word text) :
      Query.Word first ∧ Query.Word second :=
    ⟨words first List.mem_cons_self, words second (List.mem_cons_of_mem _ List.mem_cons_self)⟩
  cases sameKind_of_kind_eq leftNative rightNative kinds with
  | scans name other base held => exact congrArg (Operator.scan · ()) same
  | projections attributes others =>
      exact congrArg Operator.project
        (Query.intercalate_words_injective leftWords rightWords (bracketed_injective same))
  | selections condition other =>
      have missing : "σ (None)" = "σ (" ++ "None" ++ ")" := by decide
      apply congrArg Operator.select
      cases condition with
      | none =>
          cases other with
          | none => rfl
          | some other =>
              exact absurd (bracketed_injective (missing.symm.trans same))
                (Query.none_ne_render other)
      | some condition =>
          cases other with
          | none =>
              exact absurd (bracketed_injective (missing.symm.trans same.symm))
                (Query.none_ne_render condition)
          | some other =>
              exact congrArg some (Query.render_words_injective (pair leftWords) (pair rightWords)
                (bracketed_injective same))
  | products => rfl
  | joins condition other =>
      have equal := @Query.render_words_injective (.equalsAttribute condition)
        (.equalsAttribute other) (pair leftWords) (pair rightWords) (bracketed_injective same)
      cases equal
      rfl

end Operator

end Selectivity
