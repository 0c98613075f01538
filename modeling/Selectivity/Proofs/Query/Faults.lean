import Mathlib.Data.List.Basic
import Selectivity.Proofs.Query.RoundTrip
import Selectivity.Proofs.Query.Strictness

/-!
# Faults that the text alone decides

As soon as a lenient compilation has found one relation of the FROM clause, the catalogue has no say
in how it ends: the reading of the text knows only which names it has met. A relation is refused as
repeated exactly if the reading gets to a JOIN line with a name that it has met before, whatever the
conditions of the line are and whether or not the catalogue has the relation.
-/

namespace Selectivity.Query

open Text

variable {Base : Type} {lookup : String → Option Base}

/-- How the reading of a text ends. -/
def verdict (text : List Char) : Except QueryFault Unit :=
  match Script.ofText text with
  | .error fault => .error fault
  | .ok script => script.ending.map fun _ => ()

/-- The catalogue has one of the relations that the text lists in its FROM line, if it lists any. -/
def Sourced (lookup : String → Option Base) (text : List Char) : Prop :=
  ∀ selectLine fromLine rest names, Text.lines text = selectLine :: fromLine :: rest →
    FromLine fromLine names → ∃ name ∈ names, ∃ base, lookup name = some base

theorem findSources_marked (lookup : String → Option Base) (names : List String) :
    (findSources lookup false (markRepeated [] names)).2 =
      .ok (names.eraseDups.filterMap (baseScan? lookup)) := by
  obtain ⟨⟨scans, found⟩, -⟩ := findSources_lenient lookup (markRepeated [] names)
  rw [found, findSources_eq_ok found, filterMap_scan?, fresh_markRepeated_nil]

/-- A lenient compilation that has found a relation of the FROM clause ends like the reading. -/
theorem compile_lenient {text : List Char} (sourced : Sourced lookup text) :
    (compile lookup false text).outcome.map (fun _ => ()) = verdict text := by
  rw [compile, verdict]
  cases read : Script.ofText text with
  | error fault => rfl
  | ok script =>
      obtain ⟨selectLine, fromLine, rest, order, -, listed, -⟩ := Script.ofText_eq_ok read
      obtain ⟨names, fromNames, marked⟩ := readSources_eq_ok listed
      obtain ⟨name, member, base, known⟩ := sourced _ _ _ names order fromNames
      -- The relation of the FROM line is scanned, so the compilation does not end at the sources.
      have scan : baseScan? lookup name = some ⟨name, base⟩ := by rw [baseScan?, known]; rfl
      have scanned : ⟨name, base⟩ ∈ names.eraseDups.filterMap (baseScan? lookup) :=
        List.mem_filterMap.mpr ⟨name, List.mem_eraseDups.mpr member, scan⟩
      have found := findSources_marked lookup names
      rw [← marked] at found
      cases sources : findSources lookup false script.sources with
      | mk notices answer =>
          rw [sources] at found
          cases found
          obtain ⟨first, others, split⟩ := List.exists_cons_of_ne_nil (List.ne_nil_of_mem scanned)
          obtain ⟨⟨groups, joined⟩, -⟩ := findJoins_lenient lookup script.body
          cases joins : findJoins lookup false script.body with
          | mk more answer =>
              rw [joins] at joined
              cases joined
              simp only [Script.compile, sources, split, joins]
              cases script.ending <;> rfl

/-- The names that are known after some lines that are accepted one by one: a line that is no JOIN
clause is passed over, and a JOIN clause adds its relation, which was not known before. -/
inductive Passes : List String → List (List Char) → List String → Prop where
  | none (known : List String) : Passes known [] known
  | skip {known after : List String} {line : List Char} {rest : List (List Char)}
      (other : startsWith "JOIN" line = false) (later : Passes known rest after) :
      Passes known (line :: rest) after
  | join {known after : List String} {line : List Char} {rest : List (List Char)}
      {join : String × List Comparison} (read : joinLine? line = some join)
      (new : join.1 ∉ known) (later : Passes (join.1 :: known) rest after) :
      Passes known (line :: rest) after

theorem startsWith_of_joinParts? {line : List Char} {parts : List Char × List Char}
    (found : joinParts? line = some parts) : startsWith "JOIN" line = true := by
  obtain ⟨behind, follows, -⟩ := Option.bind_eq_some_iff.mp found
  unfold afterKeyword? at follows
  split at follows
  · next split =>
      exact List.isPrefixOf_iff_prefix.mpr ⟨_, List.append_eq_of_isPrefixOf?_eq_some split⟩
  · cases follows

theorem startsWith_of_joinLine? {line : List Char} {join : String × List Comparison}
    (read : joinLine? line = some join) : startsWith "JOIN" line = true := by
  obtain ⟨parts, found, -⟩ := Option.bind_eq_some_iff.mp read
  exact startsWith_of_joinParts? found

theorem readComparisons_of_mapM {texts : List (List Char)} {comparisons : List Comparison}
    (read : texts.mapM comparison? = some comparisons) :
    readComparisons texts = .ok comparisons := by
  induction texts generalizing comparisons with
  | nil =>
      cases read
      rfl
  | cons item rest induction =>
      rw [List.mapM_cons] at read
      obtain ⟨comparison, here, more⟩ := Option.bind_eq_some_iff.mp read
      obtain ⟨others, later, same⟩ := Option.bind_eq_some_iff.mp more
      cases same
      rw [readComparisons, here, induction later]

theorem readJoin_of_joinLine? {mentioned : List String} {line : List Char}
    {join : String × List Comparison} (read : joinLine? line = some join)
    (new : join.1 ∉ mentioned) : readJoin mentioned line = .ok join := by
  obtain ⟨⟨word, conditions⟩, parts, named⟩ := Option.bind_eq_some_iff.mp read
  obtain ⟨comparisons, found, rfl⟩ := Option.map_eq_some_iff.mp named
  have unknown : ¬ mentioned.contains (String.ofList word) = true :=
    fun known => new (List.contains_iff_mem.mp known)
  rw [readJoin, parts]
  simp only [if_neg unknown, readComparisons_of_mapM found]

/-- A JOIN line is refused for its relation exactly if the relation was mentioned before. Its
conditions do not matter. -/
theorem readJoin_repeated_iff {mentioned : List String} {line : List Char} {name : String} :
    readJoin mentioned line = .error (.repeatedRelation name) ↔
      ∃ word conditions, joinParts? line = some (word, conditions) ∧
        name = String.ofList word ∧ name ∈ mentioned := by
  rw [readJoin]
  constructor
  · intro failed
    split at failed
    · cases failed
    · next word conditions parts =>
        simp only at failed
        split at failed
        · next known =>
            cases failed
            exact ⟨word, conditions, parts, rfl, List.contains_iff_mem.mp known⟩
        · split at failed
          · cases failed
          · next other compared =>
              cases failed
              exact absurd (readComparisons_fault compared) Bool.false_ne_true
  · rintro ⟨word, conditions, parts, rfl, member⟩
    rw [parts]
    exact if_pos (List.contains_iff_mem.mpr member)

theorem readBody_skip {mentioned : List String} {line : List Char} {rest : List (List Char)}
    (other : startsWith "JOIN" line = false) (more : rest ≠ []) :
    readBody mentioned (line :: rest) =
      (.skipped (String.ofList line) .join :: (readBody mentioned rest).1,
        (readBody mentioned rest).2) := by
  obtain ⟨next, later, rfl⟩ := List.exists_cons_of_ne_nil more
  rw [readBody, if_neg (by rw [other]; exact Bool.false_ne_true)]

theorem readBody_failed {mentioned : List String} {line : List Char} {fault : QueryFault}
    (starts : startsWith "JOIN" line = true) (failed : readJoin mentioned line = .error fault)
    (rest : List (List Char)) : readBody mentioned (line :: rest) = ([], .error fault) := by
  cases rest with
  | nil =>
      have other : ¬ startsWith "WHERE" line = true := fun last => by
        rw [not_join_of_where last] at starts
        cases starts
      rw [readBody, if_neg other, if_pos starts, failed]
  | cons next rest => rw [readBody, if_pos starts, failed]

theorem Passes.readBody_eq {mentioned known : List String} {before : List (List Char)}
    (passes : Passes mentioned before known) {rest : List (List Char)} (more : rest ≠ []) :
    (readBody mentioned (before ++ rest)).2 = (readBody known rest).2 := by
  induction passes with
  | none known => rfl
  | skip other later induction =>
      rw [List.cons_append, readBody_skip other (List.append_ne_nil_of_right_ne_nil _ more)]
      exact induction
  | join read new later induction =>
      rw [List.cons_append, readBody_join (startsWith_of_joinLine? read)
        (readJoin_of_joinLine? read new)]
      exact induction

/-- The reading is ended by a fault of a JOIN clause exactly if it gets to a JOIN line that is refused
with this fault. -/
theorem readBody_eq_error_iff {mentioned : List String} {rest : List (List Char)}
    {fault : QueryFault} (other : ∀ line, readSelections line ≠ .error fault) :
    (readBody mentioned rest).2 = .error fault ↔
      ∃ before line after known, rest = before ++ line :: after ∧
        Passes mentioned before known ∧ startsWith "JOIN" line = true ∧
        readJoin known line = .error fault := by
  constructor
  · intro failed
    induction rest generalizing mentioned with
    | nil => cases failed
    | cons line rest induction =>
        cases starts : startsWith "JOIN" line with
        | true =>
            cases read : readJoin mentioned line with
            | error here =>
                rw [readBody_failed starts read] at failed
                cases failed
                exact ⟨[], line, rest, mentioned, rfl, .none _, starts, read⟩
            | ok join =>
                rw [readBody_join starts read] at failed
                obtain ⟨here, new⟩ := readJoin_eq_ok read
                obtain ⟨before, last, after, known, rfl, passes, found⟩ := induction failed
                exact ⟨line :: before, last, after, known, rfl, .join here new passes, found⟩
        | false =>
            cases rest with
            | nil =>
                have noJoin : ¬ startsWith "JOIN" line = true := by simp [starts]
                rw [readBody, if_neg noJoin] at failed
                split at failed
                · exact absurd failed (other line)
                · cases failed
            | cons next rest =>
                rw [readBody_skip starts (List.cons_ne_nil _ _)] at failed
                obtain ⟨before, last, after, known, same, passes, found⟩ := induction failed
                exact ⟨line :: before, last, after, known, congrArg (line :: ·) same,
                  .skip starts passes, found⟩
  · rintro ⟨before, line, after, known, rfl, passes, starts, failed⟩
    rw [passes.readBody_eq (List.cons_ne_nil line after), readBody_failed starts failed]

/-- The reading is ended by a repeated relation exactly if it gets to a JOIN line with a name that
it knows. -/
theorem readBody_repeated_iff {mentioned : List String} {rest : List (List Char)} {name : String} :
    (readBody mentioned rest).2 = .error (.repeatedRelation name) ↔
      ∃ before line after known word conditions, rest = before ++ line :: after ∧
        Passes mentioned before known ∧ joinParts? line = some (word, conditions) ∧
        name = String.ofList word ∧ name ∈ known := by
  have other : ∀ line, readSelections line ≠ .error (.repeatedRelation name) :=
    fun line failed => absurd (readSelections_fault failed) Bool.false_ne_true
  rw [readBody_eq_error_iff other]
  constructor
  · rintro ⟨before, line, after, known, order, passes, -, failed⟩
    obtain ⟨word, conditions, found⟩ := readJoin_repeated_iff.mp failed
    exact ⟨before, line, after, known, word, conditions, order, passes, found⟩
  · rintro ⟨before, line, after, known, word, conditions, order, passes, found⟩
    exact ⟨before, line, after, known, order, passes, startsWith_of_joinParts? found.1,
      readJoin_repeated_iff.mpr ⟨word, conditions, found⟩⟩

theorem words?_of_words {listed : List Char} (words : ∀ item ∈ items listed, isWord item = true) :
    words? listed = some ((items listed).map String.ofList) :=
  if_pos (List.all_eq_true.mpr words)

theorem SelectLine.readProjection_eq {line : List Char} {projection : Option (List String)}
    (selected : SelectLine line projection) : readProjection line = .ok projection := by
  cases selected with
  | all follows asterisk => simp only [readProjection, follows, if_pos asterisk]
  | names follows other words =>
      simp only [readProjection, follows, if_neg other, words?_of_words words]

theorem FromLine.readSources_eq {line : List Char} {names : List String}
    (sources : FromLine line names) : readSources line = .ok (markRepeated [] names) := by
  cases sources with
  | names follows words => simp only [readSources, follows, words?_of_words words]

theorem Script.ofText_of_lines {text selectLine fromLine : List Char} {rest : List (List Char)}
    {projection : Option (List String)} {names : List String}
    (order : Text.lines text = selectLine :: fromLine :: rest)
    (selected : SelectLine selectLine projection) (sources : FromLine fromLine names) :
    Script.ofText text = .ok ⟨projection, markRepeated [] names, (readBody names rest).1,
      (readBody names rest).2⟩ := by
  rw [ofText, order, ofLines, selected.readProjection_eq, sources.readSources_eq]
  simp only [name_markRepeated]

/-- If the first two lines are well formed, the text is refused for what ends the reading of the
others. -/
theorem verdict_eq_error_iff {text selectLine fromLine : List Char} {rest : List (List Char)}
    {projection : Option (List String)} {names : List String} {fault : QueryFault}
    (order : Text.lines text = selectLine :: fromLine :: rest)
    (selected : SelectLine selectLine projection) (sources : FromLine fromLine names) :
    verdict text = .error fault ↔ (readBody names rest).2 = .error fault := by
  rw [verdict, Script.ofText_of_lines order selected sources]
  cases (readBody names rest).2 with
  | error other => simp only [Except.map, Except.error.injEq]
  | ok selections => exact iff_of_false nofun nofun

/-- The reading of a text gets to a JOIN line with a relation that it knows by then: from the FROM
line, or from a JOIN line before. -/
inductive Repeats (text : List Char) (name : String) : Prop where
  | line (selectLine fromLine line : List Char) (before after : List (List Char))
      (projection : Option (List String)) (names known : List String) (word conditions : List Char)
      (order : Text.lines text = selectLine :: fromLine :: (before ++ line :: after))
      (selected : SelectLine selectLine projection) (sources : FromLine fromLine names)
      (passes : Passes names before known)
      (parts : joinParts? line = some (word, conditions)) (named : name = String.ofList word)
      (repeated : name ∈ known) : Repeats text name

theorem verdict_repeated_iff {text : List Char} {name : String} :
    verdict text = .error (.repeatedRelation name) ↔ Repeats text name := by
  constructor
  · intro failed
    cases read : Script.ofText text with
    | error fault =>
        rw [verdict, read] at failed
        cases failed
        exact absurd (Script.ofText_fault read) Bool.false_ne_true
    | ok script =>
        obtain ⟨selectLine, fromLine, rest, order, selected, listed, -⟩ :=
          Script.ofText_eq_ok read
        obtain ⟨names, sources, -⟩ := readSources_eq_ok listed
        have selected := readProjection_eq_ok selected
        obtain ⟨before, line, after, known, word, conditions, rfl, passes, parts, named,
          repeated⟩ := readBody_repeated_iff.mp
            ((verdict_eq_error_iff order selected sources).mp failed)
        exact .line selectLine fromLine line before after _ names known word conditions order
          selected sources passes parts named repeated
  · rintro ⟨selectLine, fromLine, line, before, after, projection, names, known, word, conditions,
      order, selected, sources, passes, parts, named, repeated⟩
    exact (verdict_eq_error_iff order selected sources).mpr (readBody_repeated_iff.mpr
      ⟨before, line, after, known, word, conditions, rfl, passes, parts, named, repeated⟩)

/-- If the catalogue has no relation of the FROM line, a lenient compilation is refused for the last
one that is listed. -/
theorem compile_unsourced {text selectLine fromLine : List Char} {rest : List (List Char)}
    {projection : Option (List String)} {names : List String}
    (order : Text.lines text = selectLine :: fromLine :: rest)
    (selected : SelectLine selectLine projection) (sources : FromLine fromLine names)
    (absent : ∀ name ∈ names, lookup name = none) :
    ∃ name, names.getLast? = some name ∧
      (compile lookup false text).outcome = .error (.unknownRelation name) := by
  have found := findSources_marked lookup names
  have nothing : names.eraseDups.filterMap (baseScan? lookup) = [] := by
    refine List.filterMap_eq_nil_iff.mpr fun name member => ?_
    rw [baseScan?, absent name (List.mem_eraseDups.mp member), Option.map_none]
  have last : names.getLast? = some (names.getLast sources.words?_eq.2) :=
    List.getLast?_eq_some_getLast _
  have listed : (markRepeated [] names).getLast?.map Source.name =
      some (names.getLast sources.words?_eq.2) := by
    rw [← List.getLast?_map, name_markRepeated, last]
  refine ⟨_, last, ?_⟩
  rw [compile, Script.ofText_of_lines order selected sources]
  cases told : findSources lookup false (markRepeated [] names) with
  | mk notices answer =>
      rw [told, nothing] at found
      cases found
      simp only [Script.compile, told, listed, Option.getD_some]

/-- A lenient compilation is refused for a repeated relation exactly if the catalogue has a relation
of the FROM line and the reading gets to the repetition. -/
theorem compile_repeated_iff {text : List Char} {name : String} :
    (compile lookup false text).outcome = .error (.repeatedRelation name) ↔
      Sourced lookup text ∧ Repeats text name := by
  by_cases sourced : Sourced lookup text
  · rw [← verdict_repeated_iff, ← compile_lenient sourced]
    cases (compile lookup false text).outcome with
    | error fault => simp [Except.map, sourced]
    | ok plan => simp [Except.map]
  · -- Without such a relation the compilation is refused for an unknown one instead.
    refine iff_of_false (fun failed => ?_) fun both => sourced both.1
    refine sourced fun selectLine fromLine rest names order sources => ?_
    refine Classical.byContradiction fun absent => ?_
    have unknown : ∀ name ∈ names, lookup name = none := by
      intro name member
      refine Option.eq_none_iff_forall_ne_some.mpr fun base known => ?_
      exact absent ⟨name, member, base, known⟩
    cases read : Script.ofText text with
    | error fault =>
        rw [compile, read] at failed
        cases failed
        exact Bool.false_ne_true (Script.ofText_fault read)
    | ok script =>
        obtain ⟨first, second, others, split, selected, -⟩ := Script.ofText_eq_ok read
        cases order.symm.trans split
        obtain ⟨last, -, refused⟩ :=
          compile_unsourced order (readProjection_eq_ok selected) sources unknown
        rw [refused] at failed
        cases failed

end Selectivity.Query
