import Mathlib.Data.List.Basic
import Selectivity.Proofs.Query.Printing

/-!
# Forms of a JOIN line

A JOIN line is read by an ON that may stand anywhere behind the first character of the name, with
or without blanks around it. Of all words that leave an ON behind them the longest is taken for the
relation. The whole name is taken whenever an ON follows it, whether or not the ON is a word of its
own; if none follows, the name is cut in front of the last ON that it holds.
-/

namespace Selectivity.Query

open Text

/-- Blanks, if there are any, and then an ON with the rest behind it. -/
def OnBehind (text rest : List Char) : Prop :=
  trimStart text = "ON".toList ++ rest

theorem onBehind_append {blanks : List Char}
    (blank : ∀ character ∈ blanks, isBlank character = true) (rest : List Char) :
    OnBehind (blanks ++ ("ON".toList ++ rest)) rest := by
  rw [OnBehind, Text.trimStart_append blank]
  rfl

theorem OnBehind.exists_blanks {text rest : List Char} (on : OnBehind text rest) :
    ∃ blanks, (∀ character ∈ blanks, isBlank character = true) ∧
      text = blanks ++ ("ON".toList ++ rest) := by
  obtain ⟨blanks, blank, split⟩ := exists_blanks_append text
  rw [OnBehind] at on
  exact ⟨blanks, blank, split.trans (congrArg (blanks ++ ·) on)⟩

theorem OnBehind.unique {text rest other : List Char} (on : OnBehind text rest)
    (also : OnBehind text other) : rest = other :=
  List.append_cancel_left (on.symm.trans also)

theorem afterOn?_eq_some_iff {text after : List Char} :
    afterOn? text = some after ↔ ∃ rest, OnBehind text rest ∧ after = trimStart rest := by
  unfold afterOn? OnBehind
  constructor
  · intro found
    split at found
    · next rest split =>
        cases found
        exact ⟨rest, split, rfl⟩
    · cases found
  · rintro ⟨rest, on, rfl⟩
    rw [on]
    rfl

/-- A text that starts with a word, which has an ON behind it. -/
inductive WordOn : (text word rest : List Char) → Prop where
  | last {character : Char} {text rest : List Char} (own : isWordChar character = true)
      (on : OnBehind text rest) : WordOn (character :: text) [character] rest
  | more {character : Char} {text word rest : List Char} (own : isWordChar character = true)
      (longer : WordOn text word rest) : WordOn (character :: text) (character :: word) rest

theorem wordOn_iff {text word rest : List Char} :
    WordOn text word rest ↔
      isWord word = true ∧ ∃ behind, text = word ++ behind ∧ OnBehind behind rest := by
  constructor
  · intro reading
    induction reading with
    | @last character text rest own on =>
        exact ⟨isWord_iff.mpr ⟨List.cons_ne_nil _ _, List.forall_mem_singleton.mpr own⟩, text, rfl,
          on⟩
    | @more character text word rest own longer induction =>
        obtain ⟨named, behind, rfl, on⟩ := induction
        have chars : ∀ other ∈ character :: word, isWordChar other = true :=
          List.forall_mem_cons.mpr ⟨own, (isWord_iff.mp named).2⟩
        exact ⟨isWord_iff.mpr ⟨List.cons_ne_nil _ _, chars⟩, behind, rfl, on⟩
  · rintro ⟨named, behind, rfl, on⟩
    obtain ⟨nonempty, chars⟩ := isWord_iff.mp named
    clear named
    induction word with
    | nil => exact absurd rfl nonempty
    | cons character word induction =>
        obtain ⟨own, others⟩ := List.forall_mem_cons.mp chars
        cases word with
        | nil => exact .last own on
        | cons next word => exact .more own (induction (List.cons_ne_nil _ _) others)

theorem wordBeforeOn?_longest (text : List Char) :
    match wordBeforeOn? text with
    | some (word, after) => (∃ rest, WordOn text word rest ∧ after = trimStart rest) ∧
        ∀ other rest, WordOn text other rest → other.length ≤ word.length
    | none => ∀ word rest, ¬ WordOn text word rest := by
  induction text with
  | nil =>
      rw [wordBeforeOn?]
      intro word rest reading
      cases reading
  | cons character text induction =>
      rw [wordBeforeOn?]
      by_cases own : isWordChar character = true
      · rw [if_pos own]
        cases found : wordBeforeOn? text with
        | some parts =>
            rw [found] at induction
            obtain ⟨⟨rest, reading, cut⟩, longest⟩ := induction
            refine ⟨⟨rest, .more own reading, cut⟩, fun other behind shorter => ?_⟩
            cases shorter with
            | last _ _ => exact Nat.succ_le_succ (Nat.zero_le _)
            | more _ longer => exact Nat.succ_le_succ (longest _ _ longer)
        | none =>
            rw [found] at induction
            cases on : afterOn? text with
            | some after =>
                obtain ⟨rest, here, cut⟩ := afterOn?_eq_some_iff.mp on
                refine ⟨⟨rest, .last own here, cut⟩, fun other behind reading => ?_⟩
                cases reading with
                | last _ _ => exact Nat.le_refl _
                | more _ longer => exact absurd longer (induction _ _)
            | none =>
                intro word rest reading
                cases reading with
                | last _ here =>
                    rw [afterOn?_eq_some_iff.mpr ⟨rest, here, rfl⟩] at on
                    cases on
                | more _ longer => exact induction _ _ longer
      · rw [if_neg own]
        intro word rest reading
        cases reading with
        | last wordChar _ => exact own wordChar
        | more wordChar _ => exact own wordChar

/-- Two words in front of an ON that are of one length are the same, and so is what follows. -/
theorem WordOn.unique {text word other rest behind : List Char} (reading : WordOn text word rest)
    (another : WordOn text other behind) (same : word.length = other.length) :
    word = other ∧ rest = behind := by
  obtain ⟨-, later, rfl, on⟩ := wordOn_iff.mp reading
  obtain ⟨-, also, split, onToo⟩ := wordOn_iff.mp another
  obtain ⟨rfl, rfl⟩ := List.append_inj split same
  exact ⟨rfl, on.unique onToo⟩

theorem wordBeforeOn?_eq_some_iff {text word after : List Char} :
    wordBeforeOn? text = some (word, after) ↔
      (∃ rest, WordOn text word rest ∧ after = trimStart rest) ∧
        ∀ other rest, WordOn text other rest → other.length ≤ word.length := by
  have search := wordBeforeOn?_longest text
  constructor
  · intro found
    rwa [found] at search
  · rintro ⟨⟨rest, reading, rfl⟩, longest⟩
    cases found : wordBeforeOn? text with
    | none =>
        rw [found] at search
        exact absurd reading (search _ _)
    | some parts =>
        obtain ⟨other, after⟩ := parts
        rw [found] at search
        obtain ⟨⟨behind, another, rfl⟩, longer⟩ := search
        obtain ⟨rfl, rfl⟩ := reading.unique another
          (Nat.le_antisymm (longer _ _ reading) (longest _ _ another))
        rfl

theorem exists_wordBeforeOn?_iff {text : List Char} :
    (∃ parts, wordBeforeOn? text = some parts) ↔ ∃ word rest, WordOn text word rest := by
  have search := wordBeforeOn?_longest text
  cases found : wordBeforeOn? text with
  | none =>
      rw [found] at search
      constructor
      · rintro ⟨parts, ⟨⟩⟩
      · rintro ⟨word, rest, reading⟩
        exact absurd reading (search word rest)
  | some parts =>
      rw [found] at search
      obtain ⟨⟨rest, reading, -⟩, -⟩ := search
      exact iff_of_true ⟨parts, rfl⟩ ⟨_, rest, reading⟩

/-- A line with JOIN in front, a word, an ON and the rest. There are blanks between the keyword and
the word, and there may be some before and behind the ON. -/
inductive JoinReading : (line word rest : List Char) → Prop where
  | line {space word before after rest : List Char} (apart : Space space)
      (named : isWord word = true) (gapBefore : Gap before) (gapAfter : Gap after) :
      JoinReading ("JOIN".toList ++ (space ++ (word ++ (before ++ ("ON".toList ++
        (after ++ rest)))))) word rest

theorem Gap.of_blank {line text : List Char} (single : '\n' ∉ line)
    (blank : ∀ character ∈ text, isBlank character = true)
    (within : ∀ character ∈ text, character ∈ line) : Gap text := by
  intro character member
  refine ⟨blank character member, ?_⟩
  rintro rfl
  exact single (within _ member)

theorem exists_space_of_afterKeyword? {keyword : String} {line text : List Char}
    (single : '\n' ∉ line) (follows : afterKeyword? keyword line = some text) :
    ∃ space, Space space ∧ line = keyword.toList ++ (space ++ text) := by
  unfold afterKeyword? at follows
  split at follows
  · next character rest found =>
      have order := List.append_eq_of_isPrefixOf?_eq_some found
      split at follows
      · next blank =>
          cases follows
          obtain ⟨blanks, others, split⟩ := exists_blanks_append rest
          have whole : line = keyword.toList ++ ((character :: blanks) ++ trimStart rest) := by
            rw [← order, List.cons_append, ← split]
          refine ⟨character :: blanks, ⟨List.cons_ne_nil _ _, ?_⟩, whole⟩
          refine .of_blank single (List.forall_mem_cons.mpr ⟨blank, others⟩) ?_
          intro other member
          rw [whole]
          exact List.mem_append_right _ (List.mem_append_left _ member)
      · cases follows
  · cases follows

theorem trimStart_word {word : List Char} (named : isWord word = true) (rest : List Char) :
    trimStart (word ++ rest) = word ++ rest := by
  obtain ⟨nonempty, chars⟩ := isWord_iff.mp named
  obtain ⟨character, others, rfl⟩ := List.exists_cons_of_ne_nil nonempty
  have solid := not_blank_of_word (chars character List.mem_cons_self)
  exact List.dropWhile_cons_of_neg (by rw [solid]; exact Bool.false_ne_true)

theorem joinReading_iff {line word rest : List Char} (single : '\n' ∉ line) :
    JoinReading line word rest ↔
      ∃ text after, afterKeyword? "JOIN" line = some text ∧ Gap after ∧
        WordOn text word (after ++ rest) := by
  constructor
  · rintro ⟨apart, named, gapBefore, gapAfter⟩
    refine ⟨_, _, afterKeyword?_append "JOIN" apart _, gapAfter, ?_⟩
    rw [trimStart_word named]
    exact wordOn_iff.mpr ⟨named, _, rfl, onBehind_append gapBefore.blank _⟩
  · rintro ⟨text, after, follows, gapAfter, reading⟩
    obtain ⟨space, apart, rfl⟩ := exists_space_of_afterKeyword? single follows
    obtain ⟨named, behind, rfl, on⟩ := wordOn_iff.mp reading
    obtain ⟨before, blank, rfl⟩ := on.exists_blanks
    refine .line apart named (.of_blank single blank ?_) gapAfter
    intro character member
    simp only [List.mem_append]
    exact .inr (.inr (.inr (.inl member)))

section Readings

variable {line text word : List Char}

theorem joinReading_conditions_iff (single : '\n' ∉ line)
    (follows : afterKeyword? "JOIN" line = some text) (conditions : List Char) :
    (∃ rest, JoinReading line word rest ∧ conditions = trimStart rest) ↔
      ∃ rest, WordOn text word rest ∧ conditions = trimStart rest := by
  constructor
  · rintro ⟨rest, reading, rfl⟩
    obtain ⟨_, after, found, gap, on⟩ := (joinReading_iff single).mp reading
    cases follows.symm.trans found
    exact ⟨after ++ rest, on, (Text.trimStart_append gap.blank rest).symm⟩
  · rintro ⟨rest, on, rfl⟩
    exact ⟨rest, (joinReading_iff single).mpr ⟨text, [], follows, nofun, on⟩, rfl⟩

theorem exists_joinReading_iff (single : '\n' ∉ line)
    (follows : afterKeyword? "JOIN" line = some text) :
    (∃ rest, JoinReading line word rest) ↔ ∃ rest, WordOn text word rest := by
  constructor
  · rintro ⟨rest, reading⟩
    obtain ⟨behind, on, -⟩ :=
      (joinReading_conditions_iff single follows _).mp ⟨rest, reading, rfl⟩
    exact ⟨behind, on⟩
  · rintro ⟨rest, on⟩
    obtain ⟨behind, reading, -⟩ :=
      (joinReading_conditions_iff single follows _).mpr ⟨rest, on, rfl⟩
    exact ⟨behind, reading⟩

end Readings

/-- A line is read as a JOIN clause exactly if it can be written as one, with or without blanks
around the ON. Its relation is then the longest word that stands in front of an ON in any way to
write the line so, and its conditions are what follows that ON without the blanks in front. -/
theorem join_takes_longest_word {line : List Char} (single : '\n' ∉ line) :
    ((∃ parts, joinParts? line = some parts) ↔ ∃ word rest, JoinReading line word rest) ∧
      ∀ word conditions, joinParts? line = some (word, conditions) ↔
        (∃ rest, JoinReading line word rest ∧ conditions = trimStart rest) ∧
          ∀ other rest, JoinReading line other rest → other.length ≤ word.length := by
  cases follows : afterKeyword? "JOIN" line with
  | none =>
      have unread : ∀ word rest, ¬ JoinReading line word rest := by
        intro word rest reading
        obtain ⟨text, after, found, -⟩ := (joinReading_iff single).mp reading
        cases follows.symm.trans found
      rw [joinParts?, follows]
      constructor
      · constructor
        · rintro ⟨parts, ⟨⟩⟩
        · rintro ⟨word, rest, reading⟩
          exact absurd reading (unread word rest)
      · intro word conditions
        constructor
        · rintro ⟨⟩
        · rintro ⟨⟨rest, reading, -⟩, -⟩
          exact absurd reading (unread word rest)
  | some text =>
      have read : ∀ word, (∃ rest, JoinReading line word rest) ↔ ∃ rest, WordOn text word rest :=
        fun word => exists_joinReading_iff single follows
      rw [joinParts?, follows, Option.bind_some]
      constructor
      · rw [exists_wordBeforeOn?_iff]
        exact (exists_congr read).symm
      · intro word conditions
        rw [wordBeforeOn?_eq_some_iff, joinReading_conditions_iff single follows]
        refine and_congr_right' (forall_congr' fun other => ?_)
        constructor
        · intro longest rest reading
          obtain ⟨behind, on⟩ := (read other).mp ⟨rest, reading⟩
          exact longest behind on
        · intro longest rest on
          obtain ⟨behind, reading⟩ := (read other).mpr ⟨rest, on⟩
          exact longest behind reading

/-- Of the words in front of the two ONs the second one is taken, which has the first one in it. -/
theorem join_takes_longest_word_with_two :
    '\n' ∉ "JOIN \tSONON a=b".toList ∧
      joinParts? "JOIN \tSONON a=b".toList = some ("SON".toList, "a=b".toList) ∧
      ∀ other rest, JoinReading "JOIN \tSONON a=b".toList other rest → other.length ≤ 3 := by
  have single : '\n' ∉ "JOIN \tSONON a=b".toList := by decide
  have parts : joinParts? "JOIN \tSONON a=b".toList = some ("SON".toList, "a=b".toList) := rfl
  exact ⟨single, parts, (((join_takes_longest_word single).2 _ _).mp parts).2⟩

end Selectivity.Query
