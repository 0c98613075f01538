import Selectivity.Proofs.Query.Reading
import Selectivity.Proofs.Text.Words

/-!
# Printed queries

A request is what a canonical query asks for, before it is written down. It is printed line by
line, with blanks of any kind and number wherever the format leaves room for them. Each printed
clause is recognised for what it is: blanks do not count, and names do not hide a keyword.
-/

namespace Selectivity.Query

open Text

/-- What a canonical query asks for. All names and literals are words, and no relation is named
twice. -/
structure Request where
  projection : Option (List String)
  first : String
  others : List String
  /-- The relation and the comparisons of each JOIN clause. -/
  joins : List (String × List Comparison)
  /-- The conditions of the WHERE clause; without any there is no such clause. -/
  conditions : List Predicate
  kept : projection ≠ some []
  compared : ∀ join ∈ joins, join.2 ≠ []
  projectionWords : ∀ name ∈ projection.getD [], Word name
  sourceWords : ∀ name ∈ first :: others, Word name
  joinWords : ∀ join ∈ joins, Word join.1 ∧
    ∀ comparison ∈ join.2, Word comparison.left ∧ Word comparison.right
  conditionWords : ∀ condition ∈ conditions,
    Word condition.parts.1 ∧ Word condition.parts.2
  distinct : (first :: others ++ joins.map Prod.fst).Nodup

/-- Blanks within a line. -/
def Gap (text : List Char) : Prop :=
  ∀ character ∈ text, isBlank character = true ∧ character ≠ '\n'

instance (text : List Char) : Decidable (Gap text) :=
  List.decidableBAll (fun character => isBlank character = true ∧ character ≠ '\n') text

/-- At least one blank within a line. -/
structure Space (text : List Char) : Prop where
  nonempty : text ≠ []
  gap : Gap text

/-- Items with commas between them and blanks around the commas. -/
inductive Listed : List String → List Char → Prop where
  | single (item : String) : Listed [item] item.toList
  | cons (item : String) {before after text : List Char} {rest : List String}
      (gapBefore : Gap before) (gapAfter : Gap after) (listed : Listed rest text) :
      Listed (item :: rest) (item.toList ++ (before ++ ',' :: (after ++ text)))

/-- A keyword with a list of items behind it. -/
inductive Clause (keyword : String) (items : List String) : List Char → Prop where
  | line {space text ending : List Char} (apart : Space space) (listed : Listed items text)
      (gap : Gap ending) :
      Clause keyword items (keyword.toList ++ (space ++ (text ++ ending)))

inductive JoinClause (join : String × List Comparison) : List Char → Prop where
  | line {space before after text ending : List Char} (apart : Space space)
      (spaceBefore : Space before) (spaceAfter : Space after)
      (listed : Listed (join.2.map Comparison.render) text) (gap : Gap ending) :
      JoinClause join ("JOIN".toList ++ (space ++ (join.1.toList ++ (before ++
        ("ON".toList ++ (after ++ (text ++ ending)))))))

/-- The JOIN clauses of a query, one for each line. -/
inductive JoinClauses : List (String × List Comparison) → List (List Char) → Prop where
  | nil : JoinClauses [] []
  | cons {join : String × List Comparison} {line : List Char}
      {joins : List (String × List Comparison)} {lines : List (List Char)}
      (clause : JoinClause join line) (clauses : JoinClauses joins lines) :
      JoinClauses (join :: joins) (line :: lines)

/-- The WHERE clause of a query, if there is one. -/
inductive WhereClause : List Predicate → List (List Char) → Prop where
  | none : WhereClause [] []
  | line {conditions : List Predicate} {line : List Char} (listed : conditions ≠ [])
      (clause : Clause "WHERE" (conditions.map Predicate.render) line) :
      WhereClause conditions [line]

/-- The lines of a query, one for each clause. -/
inductive Rows (request : Request) : List (List Char) → Prop where
  | rows {selectLine fromLine : List Char} {joinLines whereLines : List (List Char)}
      (select : Clause "SELECT" (request.projection.getD ["*"]) selectLine)
      (source : Clause "FROM" (request.first :: request.others) fromLine)
      (joins : JoinClauses request.joins joinLines)
      (conditions : WhereClause request.conditions whereLines) :
      Rows request (selectLine :: fromLine :: (joinLines ++ whereLines))

/-- The text of a query: its lines, with or without a line feed at the end. -/
inductive Printed (request : Request) : List Char → Prop where
  | text {rows : List (List Char)} {ending : List Char} (lines : Rows request rows)
      (closed : ending = [] ∨ ending = ['\n']) :
      Printed request (['\n'].intercalate rows ++ ending)

theorem Gap.blank {text : List Char} (gap : Gap text) :
    ∀ character ∈ text, isBlank character = true :=
  fun character member => (gap character member).1

theorem Gap.lineFeed_not_mem {text : List Char} (gap : Gap text) : '\n' ∉ text :=
  fun member => (gap '\n' member).2 rfl

/-- An item of a list: some text without blanks and commas. -/
structure Item (text : List Char) : Prop where
  nonempty : text ≠ []
  solid : ∀ character ∈ text, isBlank character = false
  free : ',' ∉ text

theorem Item.single {character : Char} (solid : isBlank character = false)
    (free : ',' ≠ character) : Item [character] where
  nonempty := List.cons_ne_nil character []
  solid := by
    intro other member
    rw [List.mem_singleton.mp member]
    exact solid
  free := fun member => free (List.mem_singleton.mp member)

theorem Item.append {left right : List Char} (first : Item left) (second : Item right) :
    Item (left ++ right) where
  nonempty := by
    intro nothing
    exact first.nonempty (List.append_eq_nil_iff.mp nothing).1
  solid := by
    intro character member
    rcases List.mem_append.mp member with before | behind
    · exact first.solid character before
    · exact second.solid character behind
  free := by
    rw [List.mem_append, not_or]
    exact ⟨first.free, second.free⟩

theorem Item.lineFeed_not_mem {text : List Char} (item : Item text) : '\n' ∉ text :=
  fun member => absurd (item.solid '\n' member) (by decide)

theorem Word.item {text : String} (word : Word text) : Item text.toList where
  nonempty := (isWord_iff.mp word).1
  solid := by
    intro character member
    exact not_blank_of_word ((isWord_iff.mp word).2 character member)
  free := not_mem_of_isWord word (by decide)

theorem item_comparison {comparison : Comparison} (left : Word comparison.left)
    (right : Word comparison.right) : Item comparison.render.toList := by
  have equals : Item ['='] := .single (by decide) (by decide)
  rw [Comparison.render, String.toList_append, String.toList_append]
  exact (left.item.append equals).append right.item

theorem item_condition {condition : Predicate} (first : Word condition.parts.1)
    (second : Word condition.parts.2) : Item condition.render.toList := by
  cases condition with
  | equalsAttribute comparison => exact item_comparison first second
  | equalsValue column value =>
      have equals : Item ['='] := .single (by decide) (by decide)
      have quote : Item ['"'] := .single (by decide) (by decide)
      rw [Predicate.render, String.toList_append, String.toList_append, String.toList_append]
      exact ((first.item.append (equals.append quote)).append second.item).append quote

def Items (items : List String) : Prop :=
  ∀ item ∈ items, Item item.toList

namespace Listed

variable {listed : List String} {text : List Char}

theorem exists_start (printed : Listed listed text) (solid : Items listed) :
    ∃ character rest, text = character :: rest ∧ isBlank character = false := by
  have front : ∀ item : String, Item item.toList → ∀ behind, ∃ character rest,
      item.toList ++ behind = character :: rest ∧ isBlank character = false := by
    intro item isItem behind
    obtain ⟨character, rest, same⟩ := List.exists_cons_of_ne_nil isItem.nonempty
    refine ⟨character, rest ++ behind, by rw [same, List.cons_append], isItem.solid character ?_⟩
    rw [same]
    exact List.mem_cons_self
  cases printed with
  | single item =>
      have start := front item (solid item List.mem_cons_self) []
      rw [List.append_nil] at start
      exact start
  | cons item before after rest => exact front item (solid item List.mem_cons_self) _

theorem exists_end (printed : Listed listed text) (solid : Items listed) :
    ∃ front character, text = front ++ [character] ∧ isBlank character = false := by
  induction printed with
  | single item =>
      have isItem := solid item List.mem_cons_self
      rcases List.eq_nil_or_concat item.toList with nothing | ⟨front, character, same⟩
      · exact absurd nothing isItem.nonempty
      · rw [List.concat_eq_append] at same
        refine ⟨front, character, same, isItem.solid character ?_⟩
        rw [same]
        exact List.mem_append_right _ List.mem_cons_self
  | @cons item before after text rest _ _ _ induction =>
      obtain ⟨front, character, rfl, blank⟩ :=
        induction fun other member => solid other (List.mem_cons_of_mem item member)
      refine ⟨item.toList ++ (before ++ ',' :: (after ++ front)), character, ?_, blank⟩
      simp only [List.append_assoc, List.cons_append]

theorem lineFeed_not_mem (printed : Listed listed text) (solid : Items listed) :
    '\n' ∉ text := by
  induction printed with
  | single item => exact (solid item List.mem_cons_self).lineFeed_not_mem
  | cons item gapBefore gapAfter _ induction =>
      have rest := induction fun other member => solid other (List.mem_cons_of_mem item member)
      have comma : '\n' ≠ ',' := by decide
      simp only [List.mem_append, List.mem_cons, not_or]
      exact ⟨(solid item List.mem_cons_self).lineFeed_not_mem, gapBefore.lineFeed_not_mem, comma,
        gapAfter.lineFeed_not_mem, rest⟩

theorem items_eq (printed : Listed listed text) (solid : Items listed) :
    items text = listed.map String.toList := by
  induction printed with
  | single item =>
      have isItem := solid item List.mem_cons_self
      rw [Text.items_eq, List.splitOn_eq_singleton isItem.free]
      exact congrArg (fun piece => [piece]) (trim_eq_self isItem.solid)
  | @cons item before after text rest gapBefore gapAfter _ induction =>
      have isItem := solid item List.mem_cons_self
      have later := induction fun other member => solid other (List.mem_cons_of_mem item member)
      have free : ',' ∉ item.toList ++ before := by
        rw [List.mem_append, not_or]
        exact ⟨isItem.free, comma_not_mem_of_blank gapBefore.blank⟩
      rw [Text.items_eq] at later ⊢
      rw [← List.append_assoc, List.splitOn_append_cons_self_of_not_mem free, List.map_cons,
        trim_append_right _ gapBefore.blank, trim_eq_self isItem.solid,
        map_trim_splitOn_append_left gapAfter.blank, later]
      rfl

theorem items_append_eq (printed : Listed listed text) (solid : Items listed)
    {ending : List Char} (gap : Gap ending) : items (text ++ ending) = listed.map String.toList := by
  rw [← printed.items_eq solid, Text.items_eq, Text.items_eq,
    map_trim_splitOn_append_right text gap.blank]

theorem trimStart_append (printed : Listed listed text) (solid : Items listed)
    (ending : List Char) : trimStart (text ++ ending) = text ++ ending := by
  obtain ⟨character, rest, rfl, blank⟩ := printed.exists_start solid
  exact List.dropWhile_cons_of_neg (by rw [blank]; exact Bool.false_ne_true)

theorem dropReturns_append (printed : Listed listed text) (solid : Items listed)
    (front ending : List Char) :
    dropReturns (front ++ (text ++ ending)) = front ++ (text ++ dropReturns ending) := by
  obtain ⟨before, character, rfl, blank⟩ := printed.exists_end solid
  have other : character ≠ '\r' := by
    rintro rfl
    cases blank
  have dropped := Text.dropReturns_append other (front ++ before) ending
  simp only [List.append_assoc, List.singleton_append] at dropped ⊢
  exact dropped

end Listed

theorem Gap.dropReturns {ending : List Char} (gap : Gap ending) : Gap (dropReturns ending) :=
  fun character member => gap character (mem_of_mem_dropReturns member)

theorem isPrefixOf?_append (front rest : List Char) :
    front.isPrefixOf? (front ++ rest) = some rest := by
  induction front with
  | nil => rfl
  | cons character others induction =>
      change (if character == character then others.isPrefixOf? (others ++ rest) else none) = _
      rw [if_pos (beq_self_eq_true character), induction]

theorem startsWith_append (keyword : String) (rest : List Char) :
    startsWith keyword (keyword.toList ++ rest) = true :=
  List.isPrefixOf_iff_prefix.mpr (List.prefix_append keyword.toList rest)

theorem afterKeyword?_append (keyword : String) {space : List Char} (apart : Space space)
    (rest : List Char) :
    afterKeyword? keyword (keyword.toList ++ (space ++ rest)) = some (trimStart rest) := by
  obtain ⟨character, others, rfl⟩ := List.exists_cons_of_ne_nil apart.nonempty
  have blank := apart.gap.blank character List.mem_cons_self
  have blanks : ∀ other ∈ others, isBlank other = true :=
    fun other member => apart.gap.blank other (List.mem_cons_of_mem character member)
  rw [afterKeyword?, isPrefixOf?_append, List.cons_append]
  simp only [blank, if_true]
  rw [Text.trimStart_append blanks]

/-- A line that has something on it. -/
structure Row (line : List Char) : Prop where
  free : '\n' ∉ line
  solid : line.all isBlank = false

namespace Clause

variable {keyword : String} {listed : List String} {line : List Char}

theorem exists_listed (clause : Clause keyword listed line) (solid : Items listed) :
    ∃ text ending, Listed listed text ∧ Gap ending ∧
      afterKeyword? keyword line = some (text ++ ending) := by
  cases clause with
  | @line space text ending apart printed gap =>
      refine ⟨text, ending, printed, gap, ?_⟩
      rw [afterKeyword?_append keyword apart, printed.trimStart_append solid]

theorem startsWith (clause : Clause keyword listed line) : startsWith keyword line = true := by
  cases clause with
  | line apart printed gap => exact startsWith_append keyword _

theorem dropReturns (clause : Clause keyword listed line) (solid : Items listed) :
    Clause keyword listed (dropReturns line) := by
  cases clause with
  | @line space text ending apart printed gap =>
      have dropped := printed.dropReturns_append solid (keyword.toList ++ space) ending
      rw [List.append_assoc, List.append_assoc] at dropped
      rw [dropped]
      exact .line apart printed gap.dropReturns

theorem row (clause : Clause keyword listed line) (solid : Items listed)
    (free : '\n' ∉ keyword.toList) : Row line := by
  cases clause with
  | line apart printed gap =>
      obtain ⟨character, rest, same, blank⟩ := printed.exists_start solid
      refine ⟨?_, List.all_eq_false.mpr ⟨character, ?_, by rw [blank]; exact Bool.false_ne_true⟩⟩
      · simp only [List.mem_append, not_or]
        exact ⟨free, apart.gap.lineFeed_not_mem, printed.lineFeed_not_mem solid,
          gap.lineFeed_not_mem⟩
      · simp [same]

end Clause

/-- The longest word in front of an ON is the one that is set off from it by blanks. -/
theorem wordBeforeOn?_append {name before : List Char} (word : isWord name = true)
    (apart : Space before) (rest : List Char) :
    wordBeforeOn? (name ++ (before ++ ("ON".toList ++ rest))) = some (name, trimStart rest) := by
  obtain ⟨blank, blanks, rfl⟩ := List.exists_cons_of_ne_nil apart.nonempty
  have stop : wordBeforeOn? (blank :: blanks ++ ("ON".toList ++ rest)) = none := by
    have other := not_word_of_blank (apart.gap.blank blank List.mem_cons_self)
    rw [List.cons_append, wordBeforeOn?, other]
    rfl
  have on : afterOn? (blank :: blanks ++ ("ON".toList ++ rest)) = some (trimStart rest) := by
    rw [afterOn?, Text.trimStart_append apart.gap.blank]
    rfl
  obtain ⟨nonempty, chars⟩ := isWord_iff.mp word
  clear word
  induction name with
  | nil => exact absurd rfl nonempty
  | cons character others induction =>
      have later : ∀ other ∈ others, isWordChar other = true :=
        fun other member => chars other (List.mem_cons_of_mem character member)
      rw [List.cons_append, wordBeforeOn?, if_pos (chars character List.mem_cons_self)]
      by_cases last : others = []
      · rw [last, List.nil_append, stop, on]
        rfl
      · rw [induction last later]

namespace JoinClause

variable {join : String × List Comparison} {line : List Char}

/-- Behind the keyword stand the relation and, behind the ON, the list of comparisons. -/
theorem exists_listed (clause : JoinClause join line) (word : Word join.1)
    (solid : Items (join.2.map Comparison.render)) :
    ∃ text ending, Listed (join.2.map Comparison.render) text ∧ Gap ending ∧
      joinParts? line = some (join.1.toList, text ++ ending) := by
  cases clause with
  | @line space before after text ending apart spaceBefore spaceAfter printed gap =>
      refine ⟨text, ending, printed, gap, ?_⟩
      have relation : Listed [join.1] join.1.toList := .single join.1
      have items : Items [join.1] := fun item member => by
        rw [List.mem_singleton.mp member]
        exact word.item
      rw [joinParts?, afterKeyword?_append "JOIN" apart, relation.trimStart_append items,
        Option.bind_some, wordBeforeOn?_append word spaceBefore,
        Text.trimStart_append spaceAfter.gap.blank, printed.trimStart_append solid]

theorem startsWith (clause : JoinClause join line) : startsWith "JOIN" line = true := by
  cases clause with
  | line apart spaceBefore spaceAfter printed gap => exact startsWith_append "JOIN" _

theorem dropReturns (clause : JoinClause join line)
    (solid : Items (join.2.map Comparison.render)) : JoinClause join (dropReturns line) := by
  cases clause with
  | @line space before after text ending apart spaceBefore spaceAfter printed gap =>
      have dropped := printed.dropReturns_append solid
        ("JOIN".toList ++ (space ++ (join.1.toList ++ (before ++ ("ON".toList ++ after))))) ending
      simp only [List.append_assoc] at dropped
      rw [dropped]
      exact .line apart spaceBefore spaceAfter printed gap.dropReturns

theorem row (clause : JoinClause join line) (word : Word join.1)
    (solid : Items (join.2.map Comparison.render)) : Row line := by
  cases clause with
  | line apart spaceBefore spaceAfter printed gap =>
      have keyword : '\n' ∉ "JOIN".toList := by decide
      have on : '\n' ∉ "ON".toList := by decide
      obtain ⟨character, rest, same, blank⟩ := printed.exists_start solid
      refine ⟨?_, List.all_eq_false.mpr ⟨character, ?_, by rw [blank]; exact Bool.false_ne_true⟩⟩
      · simp only [List.mem_append, not_or]
        exact ⟨keyword, apart.gap.lineFeed_not_mem, word.item.lineFeed_not_mem,
          spaceBefore.gap.lineFeed_not_mem, on, spaceAfter.gap.lineFeed_not_mem,
          printed.lineFeed_not_mem solid, gap.lineFeed_not_mem⟩
      · simp [same]

end JoinClause

theorem items_comparisons {comparisons : List Comparison}
    (words : ∀ comparison ∈ comparisons, Word comparison.left ∧ Word comparison.right) :
    Items (comparisons.map Comparison.render) := by
  intro item listed
  obtain ⟨comparison, within, rfl⟩ := List.mem_map.mp listed
  exact item_comparison (words comparison within).1 (words comparison within).2

theorem items_conditions {conditions : List Predicate}
    (words : ∀ condition ∈ conditions, Word condition.parts.1 ∧ Word condition.parts.2) :
    Items (conditions.map Predicate.render) := by
  intro item listed
  obtain ⟨condition, within, rfl⟩ := List.mem_map.mp listed
  exact item_condition (words condition within).1 (words condition within).2

namespace Request

variable {request : Request}

theorem items_projection (request : Request) : Items (request.projection.getD ["*"]) := by
  have asterisk : Item ['*'] := .single (by decide) (by decide)
  have words := request.projectionWords
  cases asked : request.projection with
  | none =>
      intro item member
      rw [Option.getD_none] at member
      rw [List.mem_singleton.mp member]
      exact asterisk
  | some names =>
      rw [asked, Option.getD_some] at words
      exact fun item member => (words item member).item

theorem items_sources (request : Request) : Items (request.first :: request.others) :=
  fun name member => (request.sourceWords name member).item

theorem items_joins (request : Request) :
    ∀ join ∈ request.joins, Items (join.2.map Comparison.render) :=
  fun join member => items_comparisons (request.joinWords join member).2

theorem items_selections (request : Request) :
    Items (request.conditions.map Predicate.render) :=
  items_conditions request.conditionWords

end Request

theorem JoinClauses.dropReturns {joins : List (String × List Comparison)}
    {lines : List (List Char)} (clauses : JoinClauses joins lines)
    (solid : ∀ join ∈ joins, Items (join.2.map Comparison.render)) :
    JoinClauses joins (lines.map dropReturns) := by
  induction clauses with
  | nil => exact .nil
  | cons clause clauses induction =>
      exact .cons (clause.dropReturns (solid _ List.mem_cons_self))
        (induction fun join member => solid join (List.mem_cons_of_mem _ member))

theorem JoinClauses.row {joins : List (String × List Comparison)} {lines : List (List Char)}
    (clauses : JoinClauses joins lines)
    (solid : ∀ join ∈ joins, Word join.1 ∧ Items (join.2.map Comparison.render)) :
    ∀ line ∈ lines, Row line := by
  induction clauses with
  | nil => exact fun line member => absurd member List.not_mem_nil
  | cons clause clauses induction =>
      obtain ⟨word, items⟩ := solid _ List.mem_cons_self
      intro line member
      rcases List.mem_cons.mp member with rfl | later
      · exact clause.row word items
      · exact induction (fun join member => solid join (List.mem_cons_of_mem _ member)) line later

theorem WhereClause.dropReturns {conditions : List Predicate} {lines : List (List Char)}
    (clause : WhereClause conditions lines) (solid : Items (conditions.map Predicate.render)) :
    WhereClause conditions (lines.map dropReturns) := by
  cases clause with
  | none => exact .none
  | line listed clause => exact .line listed (clause.dropReturns solid)

theorem WhereClause.row {conditions : List Predicate} {lines : List (List Char)}
    (clause : WhereClause conditions lines) (solid : Items (conditions.map Predicate.render)) :
    ∀ line ∈ lines, Row line := by
  intro line member
  cases clause with
  | none => cases member
  | line listed clause =>
      rw [List.mem_singleton.mp member]
      exact clause.row solid (by decide)

namespace Rows

variable {request : Request} {rows : List (List Char)}

theorem dropReturns (printed : Rows request rows) : Rows request (rows.map dropReturns) := by
  cases printed with
  | @rows selectLine fromLine joinLines whereLines select source joins conditions =>
      rw [List.map_cons, List.map_cons, List.map_append]
      exact .rows (select.dropReturns request.items_projection)
        (source.dropReturns request.items_sources)
        (joins.dropReturns request.items_joins)
        (conditions.dropReturns request.items_selections)

theorem row (printed : Rows request rows) : ∀ line ∈ rows, Row line := by
  cases printed with
  | @rows selectLine fromLine joinLines whereLines select source joins conditions =>
      intro line member
      rcases List.mem_cons.mp member with rfl | behind
      · exact select.row request.items_projection (by decide)
      rcases List.mem_cons.mp behind with rfl | body
      · exact source.row request.items_sources (by decide)
      rcases List.mem_append.mp body with join | last
      · exact joins.row (fun join member =>
          ⟨(request.joinWords join member).1, request.items_joins join member⟩) line join
      · exact conditions.row request.items_selections line last

end Rows

theorem Printed.rows {request : Request} {text : List Char} (printed : Printed request text) :
    Rows request (lines text) := by
  cases printed with
  | @text rows ending printed closed =>
      have nonempty : rows ≠ [] := by
        cases printed
        exact List.cons_ne_nil _ _
      rw [lines_intercalate nonempty (fun line member => (printed.row line member).free)
        (fun line member => (printed.row line member).solid) closed]
      exact printed.dropReturns

theorem space_single : Space [' '] :=
  ⟨nofun, by decide⟩

theorem exists_listed {items : List String} (nonempty : items ≠ []) : ∃ text, Listed items text := by
  have gap : Gap [] := by decide
  induction items with
  | nil => exact absurd rfl nonempty
  | cons item rest induction =>
      by_cases last : rest = []
      · rw [last]
        exact ⟨_, .single item⟩
      · obtain ⟨text, listed⟩ := induction last
        exact ⟨_, .cons item gap gap listed⟩

theorem exists_clause (keyword : String) {items : List String} (nonempty : items ≠ []) :
    ∃ line, Clause keyword items line := by
  have gap : Gap [] := by decide
  obtain ⟨text, listed⟩ := exists_listed nonempty
  exact ⟨_, .line space_single listed gap⟩

theorem exists_joinClauses {joins : List (String × List Comparison)}
    (compared : ∀ join ∈ joins, join.2 ≠ []) : ∃ lines, JoinClauses joins lines := by
  have gap : Gap [] := by decide
  induction joins with
  | nil => exact ⟨[], .nil⟩
  | cons join rest induction =>
      obtain ⟨lines, clauses⟩ := induction fun other member =>
        compared other (List.mem_cons_of_mem join member)
      have nonempty : join.2.map Comparison.render ≠ [] := fun empty =>
        compared join List.mem_cons_self (List.map_eq_nil_iff.mp empty)
      obtain ⟨text, listed⟩ := exists_listed nonempty
      exact ⟨_, .cons (.line space_single space_single space_single listed gap) clauses⟩

theorem exists_whereClause (conditions : List Predicate) :
    ∃ lines, WhereClause conditions lines := by
  by_cases empty : conditions = []
  · rw [empty]
    exact ⟨[], .none⟩
  · obtain ⟨line, clause⟩ := exists_clause "WHERE"
      fun nothing => empty (List.map_eq_nil_iff.mp nothing)
    exact ⟨[line], .line empty clause⟩

theorem Request.exists_printed (request : Request) : ∃ text, Printed request text := by
  have nonempty : request.projection.getD ["*"] ≠ [] := by
    have kept := request.kept
    cases asked : request.projection with
    | none => exact List.cons_ne_nil _ _
    | some names =>
        rintro rfl
        exact kept asked
  obtain ⟨selectLine, select⟩ := exists_clause "SELECT" nonempty
  obtain ⟨fromLine, source⟩ := exists_clause "FROM" (List.cons_ne_nil request.first request.others)
  obtain ⟨joinLines, joins⟩ := exists_joinClauses request.compared
  obtain ⟨whereLines, conditions⟩ := exists_whereClause request.conditions
  exact ⟨_, .text (.rows select source joins conditions) (Or.inl rfl)⟩

end Selectivity.Query
