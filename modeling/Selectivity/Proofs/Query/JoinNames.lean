import Mathlib.Data.List.Forall2
import Selectivity.Proofs.Query.JoinForms
import Selectivity.Proofs.Query.Reached

/-!
# Names in a JOIN line

A JOIN line names its relation by the whole word behind the keyword, and an ON of its own sets the
name off from the conditions. Such a line joins the relation that it names. Two other kinds of lines
are not refused either: an ON that goes on into a word still ends the name, and if no ON follows, a
name that has one in it is cut in front of the last one. All other lines are refused.
-/

namespace Selectivity.Query

open Text

variable {Base : Type} {lookup : String → Option Base} {strict : Bool}

/-- No word goes on at the start of the text. -/
def EndsWord (text : List Char) : Prop :=
  ∀ character ∈ text.head?, isWordChar character = false

instance (text : List Char) : Decidable (EndsWord text) :=
  inferInstanceAs (Decidable (∀ character ∈ text.head?, isWordChar character = false))

/-- A line with JOIN in front, a whole word for a name, and what follows it. -/
inductive NamedJoin : (line name behind : List Char) → Prop where
  | line {space name behind : List Char} (apart : Space space) (word : isWord name = true)
      (whole : EndsWord behind) : NamedJoin ("JOIN".toList ++ (space ++ (name ++ behind))) name behind

/-- An ON that is a word of its own, and what follows it. -/
inductive SeparateOn : (text rest : List Char) → Prop where
  | on {space rest : List Char} (apart : Space space) (whole : EndsWord rest) :
      SeparateOn (space ++ ("ON".toList ++ rest)) rest

/-- The relation that a JOIN line is read with, and the text of its conditions. -/
inductive JoinRead (line : List Char) : (relation rest : List Char) → Prop where
  /-- The name is set off by an ON. -/
  | separate {name behind rest : List Char} (named : NamedJoin line name behind)
      (on : SeparateOn behind rest) : JoinRead line name rest
  /-- The ON behind the name goes on into a word. -/
  | runOn {name behind rest : List Char} (named : NamedJoin line name behind)
      (on : OnBehind behind rest) (goesOn : ¬ EndsWord rest) : JoinRead line name rest
  /-- No ON follows the name, which is cut in front of the last one within it. -/
  | within {name behind front back : List Char} (named : NamedJoin line name behind)
      (noOn : ∀ rest, ¬ OnBehind behind rest) (nonempty : front ≠ [])
      (cut : name = front ++ ("ON".toList ++ back))
      (last : ∀ other tail, name = other ++ ("ON".toList ++ tail) →
        other.length ≤ front.length) : JoinRead line front (back ++ behind)

theorem SeparateOn.onBehind {text rest : List Char} (on : SeparateOn text rest) :
    OnBehind text rest := by
  cases on with
  | on apart whole => exact onBehind_append apart.gap.blank rest

theorem OnBehind.separate {behind rest : List Char} (on : OnBehind behind rest)
    (single : '\n' ∉ behind) (whole : EndsWord behind) (ends : EndsWord rest) :
    SeparateOn behind rest := by
  obtain ⟨blanks, blank, rfl⟩ := on.exists_blanks
  have gap : Gap blanks := .of_blank single blank fun character member =>
    List.mem_append_left _ member
  refine .on ⟨?_, gap⟩ ends
  rintro rfl
  exact absurd (whole 'O' rfl) (by decide)

theorem EndsWord.nil_of_append {more rest : List Char} (ends : EndsWord (more ++ rest))
    (chars : ∀ character ∈ more, isWordChar character = true) : more = [] := by
  cases more with
  | nil => rfl
  | cons character more =>
      have stops := ends character rfl
      rw [chars character List.mem_cons_self] at stops
      cases stops

/-- The words in front of an ON at the start of a whole name: the name itself, or its part in front
of an ON within it. -/
theorem wordOn_name_iff {name behind other rest : List Char} (word : isWord name = true)
    (whole : EndsWord behind) :
    WordOn (name ++ behind) other rest ↔
      (other = name ∧ OnBehind behind rest) ∨
        other ≠ [] ∧ ∃ back, name = other ++ ("ON".toList ++ back) ∧ rest = back ++ behind := by
  obtain ⟨nonempty, chars⟩ := isWord_iff.mp word
  constructor
  · intro reading
    obtain ⟨named, later, split, on⟩ := wordOn_iff.mp reading
    obtain ⟨otherNonempty, otherChars⟩ := isWord_iff.mp named
    rcases List.append_eq_append_iff.mp split with ⟨more, rfl, rfl⟩ | ⟨more, rfl, rfl⟩
    · obtain rfl := whole.nil_of_append fun character member =>
        otherChars character (List.mem_append_right _ member)
      rw [List.append_nil]
      exact Or.inl ⟨rfl, on⟩
    · cases more with
      | nil =>
          rw [List.append_nil]
          exact Or.inl ⟨rfl, on⟩
      | cons character more =>
          have first := chars character (List.mem_append_right _ List.mem_cons_self)
          have solid := not_blank_of_word first
          rw [OnBehind, List.cons_append, trimStart,
            List.dropWhile_cons_of_neg (by rw [solid]; exact Bool.false_ne_true)] at on
          obtain ⟨rfl, later⟩ := List.cons.inj on
          cases more with
          | nil =>
              rw [List.nil_append] at later
              rw [later] at whole
              exact absurd (whole 'N' rfl) (by decide)
          | cons next back =>
              obtain ⟨rfl, rfl⟩ := List.cons.inj later
              exact Or.inr ⟨otherNonempty, back, rfl, rfl⟩
  · rintro (⟨rfl, on⟩ | ⟨otherNonempty, back, rfl, rfl⟩)
    · exact wordOn_iff.mpr ⟨word, behind, rfl, on⟩
    · have otherChars : ∀ character ∈ other, isWordChar character = true :=
        fun character member => chars character (List.mem_append_left _ member)
      refine wordOn_iff.mpr ⟨isWord_iff.mpr ⟨otherNonempty, otherChars⟩,
        "ON".toList ++ (back ++ behind), ?_, onBehind_append (List.forall_mem_nil _) _⟩
      simp only [List.append_assoc]

theorem NamedJoin.follows {line name behind : List Char} (named : NamedJoin line name behind) :
    afterKeyword? "JOIN" line = some (name ++ behind) := by
  cases named with
  | line apart word whole => rw [afterKeyword?_append "JOIN" apart, trimStart_word word]

theorem NamedJoin.word {line name behind : List Char} (named : NamedJoin line name behind) :
    isWord name = true ∧ EndsWord behind := by
  cases named with
  | line apart word whole => exact ⟨word, whole⟩

theorem NamedJoin.lineFeed_not_mem {line name behind : List Char}
    (named : NamedJoin line name behind) (single : '\n' ∉ line) : '\n' ∉ behind := by
  cases named with
  | line apart word whole =>
      simp only [List.mem_append, not_or] at single
      exact single.2.2.2

theorem NamedJoin.unique {line name behind other later : List Char}
    (named : NamedJoin line name behind) (also : NamedJoin line other later) :
    name = other ∧ behind = later := by
  obtain ⟨word, whole⟩ := named.word
  obtain ⟨wordToo, wholeToo⟩ := also.word
  have same := Option.some.inj (named.follows.symm.trans also.follows)
  rcases List.append_eq_append_iff.mp same with ⟨more, rfl, rfl⟩ | ⟨more, rfl, rfl⟩
  · obtain rfl := whole.nil_of_append fun character member =>
      (isWord_iff.mp wordToo).2 character (List.mem_append_right _ member)
    exact ⟨(List.append_nil _).symm, rfl⟩
  · obtain rfl := wholeToo.nil_of_append fun character member =>
      (isWord_iff.mp word).2 character (List.mem_append_right _ member)
    exact ⟨List.append_nil _, rfl⟩

theorem endsWord_dropWhile (text : List Char) : EndsWord (text.dropWhile isWordChar) := by
  intro character first
  have stops := List.head?_dropWhile_not isWordChar text
  rwa [Option.mem_def.mp first] at stops

theorem exists_namedJoin {line text word rest : List Char} (single : '\n' ∉ line)
    (follows : afterKeyword? "JOIN" line = some text) (reading : WordOn text word rest) :
    ∃ name behind, text = name ++ behind ∧ NamedJoin line name behind := by
  obtain ⟨space, apart, rfl⟩ := exists_space_of_afterKeyword? single follows
  have split : text.takeWhile isWordChar ++ text.dropWhile isWordChar = text :=
    List.takeWhile_append_dropWhile
  have name : isWord (text.takeWhile isWordChar) = true := by
    refine isWord_iff.mpr ⟨?_, fun character member => ?_⟩
    · cases reading with
      | last own _ | more own _ =>
          rw [List.takeWhile_cons_of_pos own]
          exact List.cons_ne_nil _ _
    · exact List.all_eq_true.mp List.all_takeWhile character member
  have named := NamedJoin.line apart name (endsWord_dropWhile text)
  rw [split] at named
  exact ⟨_, _, split.symm, named⟩

theorem NamedJoin.joinParts?_eq_name {line name behind rest : List Char}
    (named : NamedJoin line name behind) (on : OnBehind behind rest) :
    joinParts? line = some (name, trimStart rest) := by
  obtain ⟨word, whole⟩ := named.word
  rw [joinParts?, named.follows, Option.bind_some, wordBeforeOn?_eq_some_iff]
  refine ⟨⟨rest, (wordOn_name_iff word whole).mpr (Or.inl ⟨rfl, on⟩), rfl⟩, ?_⟩
  intro other behind reading
  rcases (wordOn_name_iff word whole).mp reading with ⟨rfl, -⟩ | ⟨-, back, rfl, -⟩
  · exact Nat.le_refl _
  · exact (List.prefix_append other _).length_le

theorem NamedJoin.joinParts?_eq_front {line name behind front back : List Char}
    (named : NamedJoin line name behind) (noOn : ∀ rest, ¬ OnBehind behind rest)
    (nonempty : front ≠ []) (cut : name = front ++ ("ON".toList ++ back))
    (last : ∀ other tail, name = other ++ ("ON".toList ++ tail) → other.length ≤ front.length) :
    joinParts? line = some (front, trimStart (back ++ behind)) := by
  obtain ⟨word, whole⟩ := named.word
  rw [joinParts?, named.follows, Option.bind_some, wordBeforeOn?_eq_some_iff]
  refine ⟨⟨back ++ behind, (wordOn_name_iff word whole).mpr (Or.inr ⟨nonempty, back, cut, rfl⟩),
    rfl⟩, ?_⟩
  intro other behind reading
  rcases (wordOn_name_iff word whole).mp reading with ⟨-, on⟩ | ⟨-, tail, split, -⟩
  · exact absurd on (noOn behind)
  · exact last other tail split

/-- A line is read as a join exactly as its name and the ON behind or within it say. -/
theorem joinParts?_eq_some_iff {line relation conditions : List Char} (single : '\n' ∉ line) :
    joinParts? line = some (relation, conditions) ↔
      ∃ rest, JoinRead line relation rest ∧ conditions = trimStart rest := by
  constructor
  · intro found
    obtain ⟨text, follows, found⟩ := Option.bind_eq_some_iff.mp found
    obtain ⟨⟨rest, reading, cut⟩, longest⟩ := wordBeforeOn?_eq_some_iff.mp found
    obtain ⟨name, behind, rfl, named⟩ := exists_namedJoin single follows reading
    obtain ⟨word, whole⟩ := named.word
    refine ⟨rest, ?_, cut⟩
    rcases (wordOn_name_iff word whole).mp reading with
      ⟨rfl, on⟩ | ⟨nonempty, back, rfl, rfl⟩
    · by_cases ends : EndsWord rest
      · exact .separate named (on.separate (named.lineFeed_not_mem single) whole ends)
      · exact .runOn named on ends
    · refine .within named ?_ nonempty rfl ?_
      · intro rest on
        have shorter := longest _ _ ((wordOn_name_iff word whole).mpr (Or.inl ⟨rfl, on⟩))
        have some : 0 < "ON".toList.length := by decide
        rw [List.length_append, List.length_append] at shorter
        omega
      · intro other tail split
        by_cases empty : other = []
        · rw [empty]
          exact Nat.zero_le _
        · exact longest _ _ ((wordOn_name_iff word whole).mpr (Or.inr ⟨empty, tail, split, rfl⟩))
  · rintro ⟨rest, read, rfl⟩
    cases read with
    | separate named on => exact named.joinParts?_eq_name on.onBehind
    | runOn named on goesOn => exact named.joinParts?_eq_name on
    | within named noOn nonempty cut last => exact named.joinParts?_eq_front noOn nonempty cut last

/-- A line with an ON behind its name joins the relation that it names, and no other. -/
theorem JoinRead.eq_name {line name behind rest relation other : List Char}
    (read : JoinRead line relation other) (named : NamedJoin line name behind)
    (on : OnBehind behind rest) : relation = name ∧ other = rest := by
  cases read with
  | separate also here =>
      obtain ⟨rfl, rfl⟩ := named.unique also
      exact ⟨rfl, here.onBehind.unique on⟩
  | runOn also here goesOn =>
      obtain ⟨rfl, rfl⟩ := named.unique also
      exact ⟨rfl, here.unique on⟩
  | within also noOn =>
      obtain ⟨rfl, rfl⟩ := named.unique also
      exact absurd on (noOn rest)

theorem joinRead_iff_of_separate {line name behind rest relation other : List Char}
    (named : NamedJoin line name behind) (on : SeparateOn behind rest) :
    JoinRead line relation other ↔ relation = name ∧ other = rest := by
  constructor
  · exact fun read => read.eq_name named on.onBehind
  · rintro ⟨rfl, rfl⟩
    exact .separate named on

/-- The relation and the comparisons that a JOIN line is read with. -/
def JoinLineRead (line : List Char) (join : String × List Comparison) : Prop :=
  ∃ relation rest, JoinRead line relation rest ∧ join.1 = String.ofList relation ∧
    (items rest).mapM comparison? = some join.2

theorem joinLine?_eq_some_iff {line : List Char} {join : String × List Comparison}
    (single : '\n' ∉ line) : joinLine? line = some join ↔ JoinLineRead line join := by
  rw [joinLine?, Option.bind_eq_some_iff]
  constructor
  · rintro ⟨⟨relation, conditions⟩, parts, named⟩
    obtain ⟨rest, read, rfl⟩ := (joinParts?_eq_some_iff single).mp parts
    obtain ⟨comparisons, found, rfl⟩ := Option.map_eq_some_iff.mp named
    rw [items_trimStart] at found
    exact ⟨relation, rest, read, rfl, found⟩
  · rintro ⟨relation, rest, read, named, found⟩
    refine ⟨_, (joinParts?_eq_some_iff single).mpr ⟨rest, read, rfl⟩, ?_⟩
    rw [← items_trimStart] at found
    simp only [found, Option.map_some, ← named]

theorem forall₂_joinLineRead {lines : List (List Char)} {joins : List (String × List Comparison)}
    (single : ∀ line ∈ lines, '\n' ∉ line) (read : lines.map joinLine? = joins.map some) :
    List.Forall₂ JoinLineRead lines joins := by
  have found : List.Forall₂ (fun line join => joinLine? line = some join) lines joins := by
    rw [← List.forall₂_map_right_iff (R := fun line join => joinLine? line = join),
      ← List.forall₂_map_left_iff (R := (· = ·)), List.forall₂_eq_eq_eq]
    exact read
  exact ((List.forall₂_and_left _ _).mpr ⟨single, found⟩).imp fun line join here =>
    (joinLine?_eq_some_iff here.1).mp here.2

theorem readJoin_joinExpected_iff {mentioned : List String} {line : List Char} {text : String} :
    readJoin mentioned line = .error (.joinExpected text) ↔
      joinParts? line = none ∧ text = String.ofList line := by
  rw [readJoin]
  constructor
  · intro failed
    split at failed
    · next unread =>
        cases failed
        exact ⟨unread, rfl⟩
    · simp only at failed
      split at failed
      · cases failed
      · split at failed
        · cases failed
        · next other compared =>
            cases failed
            obtain ⟨item, -, same⟩ := readComparisons_eq_error compared
            cases same
  · rintro ⟨unread, rfl⟩
    rw [unread]

/-- A line that the compilation gets to is refused as no JOIN clause exactly if it cannot be read as
one. -/
theorem Reaches.joinExpected_iff {text line : List Char} {known : List String}
    (reaches : Reaches lookup strict text line known) :
    (compile lookup strict text).outcome = .error (.joinExpected (String.ofList line)) ↔
      ¬ ∃ relation rest, JoinRead line relation rest := by
  have single := lineFeed_not_mem_of_mem_lines reaches.mem_lines
  constructor
  · rintro failed ⟨relation, rest, read⟩
    have parts := (joinParts?_eq_some_iff single).mpr ⟨rest, read, rfl⟩
    have refused := verdict_of_compile reaches.sourced failed trivial
    cases reaches with
    | line order selected sources =>
        have noWhere : ∀ last, readSelections last ≠ .error (.joinExpected (String.ofList line)) := by
          intro last broken
          rcases readSelections_eq_error broken with same | ⟨item, same⟩ <;> cases same
        obtain ⟨before, other, after, mentioned, -, -, -, broken⟩ :=
          (readBody_eq_error_iff noWhere).mp
            ((verdict_eq_error_iff order selected sources).mp refused)
        obtain ⟨unread, same⟩ := readJoin_joinExpected_iff.mp broken
        rw [← String.ofList_inj.mp same, parts] at unread
        cases unread
  · intro unread
    refine reaches.outcome_eq (readJoin_joinExpected_iff.mpr ⟨?_, rfl⟩)
    refine Option.eq_none_iff_forall_ne_some.mpr fun ⟨relation, conditions⟩ parts => ?_
    obtain ⟨rest, read, -⟩ := (joinParts?_eq_some_iff single).mp parts
    exact unread ⟨relation, rest, read⟩

/-- A line that is read as a join of a known relation is refused as a repetition. -/
theorem Reaches.repeated {text line relation rest : List Char} {known : List String}
    (reaches : Reaches lookup strict text line known) (read : JoinRead line relation rest)
    (member : String.ofList relation ∈ known) :
    (compile lookup strict text).outcome =
      .error (.repeatedRelation (String.ofList relation)) := by
  have single := lineFeed_not_mem_of_mem_lines reaches.mem_lines
  have parts := (joinParts?_eq_some_iff single).mpr ⟨rest, read, rfl⟩
  exact reaches.outcome_eq (readJoin_repeated_iff.mpr ⟨relation, _, parts, rfl, member⟩)

/-- A line that is read as a join with other conditions than comparisons is refused for one of
them. -/
theorem Reaches.joinPredicate {text line relation rest : List Char} {known : List String}
    (reaches : Reaches lookup strict text line known) (read : JoinRead line relation rest)
    (new : String.ofList relation ∉ known) (broken : (items rest).mapM comparison? = none) :
    ∃ item ∈ items rest, (compile lookup strict text).outcome =
      .error (.joinPredicate (String.ofList item)) := by
  have single := lineFeed_not_mem_of_mem_lines reaches.mem_lines
  have parts := (joinParts?_eq_some_iff single).mpr ⟨rest, read, rfl⟩
  have unknown : ¬ known.contains (String.ofList relation) = true :=
    fun found => new (List.contains_iff_mem.mp found)
  cases compared : readComparisons (items rest) with
  | ok comparisons =>
      rw [readComparisons_eq_ok compared] at broken
      cases broken
  | error fault =>
      obtain ⟨item, member, rfl⟩ := readComparisons_eq_error compared
      refine ⟨item, member, reaches.outcome_eq ?_⟩
      rw [readJoin, parts]
      simp only [if_neg unknown, items_trimStart, compared]

end Selectivity.Query
