import Selectivity.Proofs.Query.Printing

/-!
# Reading printed queries

What is read from a printed query is the request that was printed. Both forms of a condition are
told apart, no clause is passed over, and if the catalogue has all relations of the request, then
its plan is compiled from the text and nothing is told.
-/

namespace Selectivity.Query

open Text

theorem toList_render (comparison : Comparison) :
    comparison.render.toList = comparison.left.toList ++ '=' :: comparison.right.toList := by
  rw [Comparison.render, String.toList_append, String.toList_append, List.append_assoc]
  rfl

theorem toList_render_equalsValue (column value : String) :
    (Predicate.equalsValue column value).render.toList =
      column.toList ++ '=' :: '"' :: (value.toList ++ ['"']) := by
  rw [Predicate.render, String.toList_append, String.toList_append, String.toList_append,
    List.append_assoc, List.append_assoc]
  rfl

theorem span_comparison {comparison : Comparison} (left : Word comparison.left) :
    comparison.render.toList.span isWordChar =
      (comparison.left.toList, '=' :: comparison.right.toList) := by
  rw [toList_render]
  exact span_word (isWord_iff.mp left).2 (by decide) comparison.right.toList

theorem comparison?_render {comparison : Comparison} (left : Word comparison.left)
    (right : Word comparison.right) : comparison? comparison.render.toList = some comparison := by
  have both : (isWord comparison.left.toList && isWord comparison.right.toList) = true :=
    Bool.and_eq_true_iff.mpr ⟨left, right⟩
  rw [comparison?, span_comparison left]
  simp only [both, if_true, String.ofList_toList]

/-- The value form is told from the other one by the quote behind the equals sign. -/
theorem valueCondition?_comparison {comparison : Comparison} (left : Word comparison.left)
    (right : Word comparison.right) : valueCondition? comparison.render.toList = none := by
  have free : '"' ∉ comparison.right.toList := not_mem_of_isWord right (by decide)
  rw [valueCondition?, span_comparison left]
  cases behind : comparison.right.toList with
  | nil => rfl
  | cons character rest =>
      split
      · next column value same =>
          cases same
          rw [behind] at free
          exact absurd List.mem_cons_self free
      · rfl

theorem valueCondition?_render {column value : String} (first : Word column)
    (second : Word value) :
    valueCondition? (Predicate.equalsValue column value).render.toList =
      some (.equalsValue column value) := by
  have outer := span_word (isWord_iff.mp first).2 (by decide : isWordChar '=' = false)
    ('"' :: (value.toList ++ ['"']))
  have inner := span_word (isWord_iff.mp second).2 (by decide : isWordChar '"' = false) []
  have both : (isWord column.toList && isWord value.toList) = true :=
    Bool.and_eq_true_iff.mpr ⟨first, second⟩
  rw [toList_render_equalsValue, valueCondition?, outer]
  simp only [inner, both, if_true, String.ofList_toList]

theorem condition?_render {condition : Predicate} (first : Word condition.parts.1)
    (second : Word condition.parts.2) : condition? condition.render.toList = some condition := by
  cases condition with
  | equalsValue column value =>
      have read := valueCondition?_render first second
      rw [condition?]
      exact congrArg (Option.or · _) read
  | equalsAttribute comparison =>
      rw [condition?, Predicate.render, valueCondition?_comparison first second,
        comparison?_render first second]
      rfl

theorem readComparisons_render {comparisons : List Comparison}
    (words : ∀ comparison ∈ comparisons, Word comparison.left ∧ Word comparison.right) :
    readComparisons ((comparisons.map Comparison.render).map String.toList) = .ok comparisons := by
  induction comparisons with
  | nil => rfl
  | cons comparison rest induction =>
      obtain ⟨left, right⟩ := words comparison List.mem_cons_self
      have later := induction fun other member => words other (List.mem_cons_of_mem _ member)
      rw [List.map_cons, List.map_cons, readComparisons, comparison?_render left right, later]

theorem readConditions_render {conditions : List Predicate}
    (words : ∀ condition ∈ conditions, Word condition.parts.1 ∧ Word condition.parts.2) :
    readConditions ((conditions.map Predicate.render).map String.toList) = .ok conditions := by
  induction conditions with
  | nil => rfl
  | cons condition rest induction =>
      obtain ⟨first, second⟩ := words condition List.mem_cons_self
      have later := induction fun other member => words other (List.mem_cons_of_mem _ member)
      rw [List.map_cons, List.map_cons, readConditions, condition?_render first second, later]

theorem words?_listed {names : List String} {text ending : List Char}
    (printed : Listed names text) (words : ∀ name ∈ names, Word name) (gap : Gap ending) :
    words? (text ++ ending) = some names := by
  have listed := printed.items_append_eq (fun name member => (words name member).item) gap
  have all : (names.map String.toList).all isWord = true := by
    rw [List.all_map]
    exact List.all_eq_true.mpr words
  have back : (names.map String.toList).map String.ofList = names := by
    have same : String.ofList ∘ String.toList = id := funext fun _ => String.ofList_toList
    rw [List.map_map, same, List.map_id]
  rw [words?, listed, all, back]
  rfl

theorem trim_listed_ne {names : List String} {text ending : List Char}
    (printed : Listed names text) (words : ∀ name ∈ names, Word name) (gap : Gap ending) :
    trim (text ++ ending) ≠ ['*'] := by
  intro asterisk
  have listed := printed.items_append_eq (fun name member => (words name member).item) gap
  rw [Text.items_eq, ← map_trim_splitOn_trim, asterisk] at listed
  have member : ['*'] ∈ names.map String.toList := by
    rw [← listed]
    decide
  obtain ⟨name, within, same⟩ := List.mem_map.mp member
  have word := words name within
  rw [Word, same] at word
  exact absurd word (by decide)

theorem readProjection_printed (request : Request) {line : List Char}
    (clause : Clause "SELECT" (request.projection.getD ["*"]) line) :
    readProjection line = .ok request.projection := by
  obtain ⟨text, ending, printed, gap, follows⟩ := clause.exists_listed request.items_projection
  have words := request.projectionWords
  rw [readProjection, follows]
  cases asked : request.projection with
  | none =>
      rw [asked] at printed
      cases printed with
      | single =>
          have asterisk : trim ("*".toList ++ ending) = ['*'] :=
            (trim_append_right ['*'] gap.blank).trans (by decide)
          simp only [asterisk, if_true]
      | cons _ _ _ listed => cases listed
  | some names =>
      rw [asked, Option.getD_some] at printed words
      simp only [trim_listed_ne printed words gap, words?_listed printed words gap, if_false]

theorem markRepeated_distinct {mentioned names : List String} (distinct : names.Nodup)
    (unmentioned : ∀ name ∈ names, name ∉ mentioned) :
    markRepeated mentioned names = names.map Source.fresh := by
  induction names generalizing mentioned with
  | nil => rfl
  | cons name rest induction =>
      obtain ⟨first, others⟩ := List.nodup_cons.mp distinct
      have unknown : mentioned.contains name = false := by
        rw [← Bool.not_eq_true, List.contains_iff_mem]
        exact unmentioned name List.mem_cons_self
      rw [markRepeated_unknown rest unknown, List.map_cons]
      refine congrArg (List.cons _) (induction others fun other member known => ?_)
      rcases List.mem_cons.mp known with rfl | before
      · exact first member
      · exact unmentioned other (List.mem_cons_of_mem name member) before

theorem readSources_printed (request : Request) {line : List Char}
    (clause : Clause "FROM" (request.first :: request.others) line) :
    readSources line = .ok ((request.first :: request.others).map .fresh) := by
  obtain ⟨text, ending, printed, gap, follows⟩ := clause.exists_listed request.items_sources
  have distinct := (List.nodup_append.mp request.distinct).1
  rw [readSources, follows]
  simp only [words?_listed printed request.sourceWords gap]
  rw [markRepeated_distinct distinct fun name _ => List.not_mem_nil]

theorem readJoin_printed {mentioned : List String} {join : String × List Comparison}
    {line : List Char} (clause : JoinClause join line) (word : Word join.1)
    (words : ∀ comparison ∈ join.2, Word comparison.left ∧ Word comparison.right)
    (unmentioned : join.1 ∉ mentioned) : readJoin mentioned line = .ok join := by
  have solid := items_comparisons words
  obtain ⟨text, ending, printed, gap, parts⟩ := clause.exists_listed word solid
  have unknown : mentioned.contains join.1 = false := by
    rw [← Bool.not_eq_true, List.contains_iff_mem]
    exact unmentioned
  rw [readJoin, parts]
  simp only [String.ofList_toList, unknown, printed.items_append_eq solid gap,
    readComparisons_render words]
  rfl

theorem readSelections_printed {conditions : List Predicate} {line : List Char}
    (clause : Clause "WHERE" (conditions.map Predicate.render) line)
    (words : ∀ condition ∈ conditions, Word condition.parts.1 ∧ Word condition.parts.2) :
    readSelections line = .ok conditions := by
  have solid := items_conditions words
  obtain ⟨text, ending, printed, gap, follows⟩ := clause.exists_listed solid
  rw [readSelections, follows]
  simp only [printed.items_append_eq solid gap]
  exact readConditions_render words

def BodyLine.ofJoin (join : String × List Comparison) : BodyLine :=
  .join join.1 join.2

theorem readBody_join {mentioned : List String} {join : String × List Comparison}
    {line : List Char} (starts : startsWith "JOIN" line = true)
    (read : readJoin mentioned line = .ok join) (rest : List (List Char)) :
    readBody mentioned (line :: rest) =
      (.ofJoin join :: (readBody (join.1 :: mentioned) rest).1,
        (readBody (join.1 :: mentioned) rest).2) := by
  cases rest with
  | nil =>
      have other : ¬ startsWith "WHERE" line = true := fun last => by
        rw [not_join_of_where last] at starts
        cases starts
      have nothing : readBody (join.1 :: mentioned) [] = ([], .ok []) := rfl
      rw [nothing, readBody, if_neg other, if_pos starts, read]
      rfl
  | cons next rest =>
      rw [readBody, if_pos starts, read]
      rfl

theorem readBody_printed {joins : List (String × List Comparison)} {conditions : List Predicate}
    {joinLines whereLines : List (List Char)} {mentioned : List String}
    (clauses : JoinClauses joins joinLines) (last : WhereClause conditions whereLines)
    (joinWords : ∀ join ∈ joins, Word join.1 ∧
      ∀ comparison ∈ join.2, Word comparison.left ∧ Word comparison.right)
    (conditionWords : ∀ condition ∈ conditions,
      Word condition.parts.1 ∧ Word condition.parts.2)
    (distinct : (joins.map Prod.fst).Nodup)
    (unmentioned : ∀ name ∈ joins.map Prod.fst, name ∉ mentioned) :
    readBody mentioned (joinLines ++ whereLines) = (joins.map .ofJoin, .ok conditions) := by
  induction clauses generalizing mentioned with
  | nil =>
      cases last with
      | none => rfl
      | line listed clause =>
          rw [List.nil_append, readBody, if_pos clause.startsWith,
            readSelections_printed clause conditionWords]
          rfl
  | @cons join line joins joinLines clause clauses induction =>
      obtain ⟨word, words⟩ := joinWords join List.mem_cons_self
      obtain ⟨first, others⟩ := List.nodup_cons.mp distinct
      have read := readJoin_printed clause word words (unmentioned join.1 List.mem_cons_self)
      have later : readBody (join.1 :: mentioned) (joinLines ++ whereLines) =
          (joins.map .ofJoin, .ok conditions) := by
        apply induction (fun other member => joinWords other (List.mem_cons_of_mem join member))
          others
        intro name member known
        rcases List.mem_cons.mp known with rfl | before
        · exact first member
        · exact unmentioned name (List.mem_cons_of_mem _ member) before
      rw [List.cons_append, readBody_join clause.startsWith read, later, List.map_cons]

/-- What the lines of the printed request say. -/
def Request.script (request : Request) : Script where
  projection := request.projection
  sources := (request.first :: request.others).map .fresh
  body := request.joins.map .ofJoin
  ending := .ok request.conditions

/-- A printed request is read as it was printed. -/
theorem Printed.script {request : Request} {text : List Char} (printed : Printed request text) :
    Script.ofText text = .ok request.script := by
  have rows := printed.rows
  obtain ⟨-, distinct, apart⟩ := List.nodup_append.mp request.distinct
  rw [Script.ofText]
  generalize lines text = listed at rows ⊢
  cases rows with
  | rows select source joins conditions =>
      have names : ((request.first :: request.others).map Source.fresh).map Source.name =
          request.first :: request.others := by
        rw [List.map_map]
        exact List.map_id _
      have body := readBody_printed joins conditions request.joinWords request.conditionWords
        distinct fun name member known => apart name known name member rfl
      rw [Script.ofLines, readProjection_printed request select,
        readSources_printed request source]
      simp only [names, body]
      rfl

section Plan

variable {Base : Type} {lookup : String → Option Base} {base : String → Base}

/-- The names of the relations in the order in which a request mentions them. -/
def Request.relations (request : Request) : List String :=
  request.first :: request.others ++ request.joins.map Prod.fst

/-- The plan that a request denotes, if the catalogue has the given relations. -/
def Request.plan (request : Request) (base : String → Base) : CanonicalPlan Base where
  projection := request.projection
  first := ⟨request.first, base request.first⟩
  others := request.others.map fun name => ⟨name, base name⟩
  joins := request.joins.map fun join => ⟨⟨join.1, base join.1⟩, join.2⟩
  selections := request.conditions

theorem findSources_known (strict : Bool) {names : List String}
    (known : ∀ name ∈ names, lookup name = some (base name)) :
    findSources lookup strict (names.map .fresh) =
      ([], .ok (names.map fun name => ⟨name, base name⟩)) := by
  induction names with
  | nil => rfl
  | cons name rest induction =>
      have later := induction fun other member => known other (List.mem_cons_of_mem name member)
      rw [List.map_cons, findSources, known name List.mem_cons_self, later]
      rfl

theorem findJoins_known (strict : Bool) {joins : List (String × List Comparison)}
    (known : ∀ name ∈ joins.map Prod.fst, lookup name = some (base name)) :
    findJoins lookup strict (joins.map .ofJoin) =
      ([], .ok (joins.map fun join => ⟨⟨join.1, base join.1⟩, join.2⟩)) := by
  induction joins with
  | nil => rfl
  | cons join rest induction =>
      have later := induction fun other member => known other (List.mem_cons_of_mem _ member)
      rw [List.map_cons, BodyLine.ofJoin, findJoins, known join.1 List.mem_cons_self, later]
      rfl

/-- A printed request is compiled to its plan without notice. -/
theorem Printed.compile_eq {request : Request} {text : List Char} (printed : Printed request text)
    (strict : Bool)
    (known : ∀ name ∈ request.relations, lookup name = some (base name)) :
    compile lookup strict text = ⟨[], .ok (request.plan base)⟩ := by
  have sources := findSources_known strict fun name member =>
    known name (List.mem_append_left _ member)
  have joins := findJoins_known strict fun name member =>
    known name (List.mem_append_right _ member)
  rw [compile, printed.script]
  simp only [Script.compile, Request.script, sources, joins]
  rfl

end Plan

end Selectivity.Query
