import Selectivity.Proofs.Query.Faults

/-!
# Lines that a compilation gets to

A compilation gets to a JOIN line if the first two lines are well formed, the catalogue has a
relation of the FROM line, and every line in between is accepted. A strict one gets there only if
the catalogue has all relations that are mentioned before. Whatever is wrong with the line then is
what is wrong with the query.
-/

namespace Selectivity.Query

open Text

variable {Base : Type} {lookup : String → Option Base} {strict : Bool}
  {text line : List Char} {known : List String}

/-- The compilation of a text gets to a JOIN line, and knows some names by then. -/
inductive Reaches (lookup : String → Option Base) (strict : Bool) (text line : List Char)
    (known : List String) : Prop where
  | line {selectLine fromLine : List Char} {before after : List (List Char)}
      {projection : Option (List String)} {names : List String}
      (order : Text.lines text = selectLine :: fromLine :: (before ++ line :: after))
      (selected : SelectLine selectLine projection) (sources : FromLine fromLine names)
      (passes : Passes names before known) (starts : startsWith "JOIN" line = true)
      (found : ∃ name ∈ names, ∃ base, lookup name = some base)
      (complete : strict = true → ∀ name ∈ known, ∃ base, lookup name = some base) :
      Reaches lookup strict text line known

theorem Reaches.mem_lines (reaches : Reaches lookup strict text line known) :
    line ∈ Text.lines text := by
  cases reaches with
  | line order =>
      rw [order]
      exact .tail _ (.tail _ (List.mem_append_right _ List.mem_cons_self))

theorem FromLine.unique {fromLine : List Char} {names others : List String}
    (sources : FromLine fromLine names) (also : FromLine fromLine others) : names = others := by
  have same := sources.words?_eq.1
  rw [also.words?_eq.1] at same
  exact (Option.some.inj same).symm

theorem Reaches.sourced (reaches : Reaches lookup strict text line known) :
    Sourced lookup text := by
  cases reaches with
  | line order selected sources passes starts found =>
      intro selectLine fromLine rest names split listed
      cases order.symm.trans split
      rwa [← sources.unique listed]

theorem Passes.subset {mentioned : List String} {before : List (List Char)}
    (passes : Passes mentioned before known) : mentioned ⊆ known := by
  induction passes with
  | none known => exact List.Subset.refl known
  | skip other later induction => exact induction
  | join read new later induction => exact List.Subset.trans (List.subset_cons_self _ _) induction

theorem Passes.joinNames_subset {mentioned : List String} {before rest : List (List Char)}
    (passes : Passes mentioned before known) (more : rest ≠ [])
    (nothing : (readBody known rest).1 = []) :
    ((readBody mentioned (before ++ rest)).1.filterMap BodyLine.join?).map Prod.fst ⊆ known := by
  induction passes with
  | none known =>
      rw [List.nil_append, nothing]
      exact List.nil_subset known
  | skip other later induction =>
      rw [List.cons_append, readBody_skip other (List.append_ne_nil_of_right_ne_nil _ more)]
      exact induction nothing
  | @join mentioned known line before join read new later induction =>
      rw [List.cons_append, readBody_join (startsWith_of_joinLine? read)
        (readJoin_of_joinLine? read new)]
      exact List.cons_subset.mpr ⟨later.subset List.mem_cons_self, induction nothing⟩

theorem Reaches.verdict_eq (reaches : Reaches lookup strict text line known) {fault : QueryFault}
    (failed : readJoin known line = .error fault) : verdict text = .error fault := by
  cases reaches with
  | @line selectLine fromLine before after projection names order selected sources passes starts =>
      refine (verdict_eq_error_iff order selected sources).mpr ?_
      rw [passes.readBody_eq (List.cons_ne_nil line after), readBody_failed starts failed]

theorem verdict_of_compile (sourced : Sourced lookup text) {fault : QueryFault}
    (failed : (compile lookup strict text).outcome = .error fault) (ofText : FaultOfText fault) :
    verdict text = .error fault := by
  have lenient : (compile lookup false text).outcome = .error fault := by
    cases strict with
    | false => exact failed
    | true =>
        cases compile_hastens lookup text with
        | same quiet same => exact (congrArg Prod.snd same).symm.trans failed
        | stopped name later warned quiet stopped =>
            rw [failed] at stopped
            cases stopped
            exact absurd ofText id
  rw [← compile_lenient sourced, lenient]
  rfl

theorem Reaches.mentioned_subset (reaches : Reaches lookup strict text line known)
    {fault : QueryFault} (failed : readJoin known line = .error fault) :
    ∃ script, Script.ofText text = .ok script ∧ script.mentioned ⊆ known := by
  cases reaches with
  | @line selectLine fromLine before after projection names order selected sources passes starts =>
      have nothing : (readBody known (line :: after)).1 = [] := by
        rw [readBody_failed starts failed]
      refine ⟨_, Script.ofText_of_lines order selected sources, List.append_subset.mpr ⟨?_, ?_⟩⟩
      · intro name member
        rw [fresh_markRepeated_nil] at member
        exact passes.subset (List.mem_eraseDups.mp member)
      · exact passes.joinNames_subset (List.cons_ne_nil line after) nothing

theorem Reaches.quiet (reaches : Reaches lookup true text line known) {fault : QueryFault}
    (failed : readJoin known line = .error fault) :
    warnings (compile lookup false text).notices = [] := by
  obtain ⟨script, read, mentioned⟩ := reaches.mentioned_subset failed
  have complete : ∀ name ∈ known, ∃ base, lookup name = some base := by
    cases reaches with
    | line _ _ _ _ _ _ complete => exact complete rfl
  have none : script.mentioned.filter (missing lookup) = [] := by
    refine List.filter_eq_nil_iff.mpr fun name member => ?_
    obtain ⟨base, found⟩ := complete name (mentioned member)
    rw [missing, found]
    exact Bool.false_ne_true
  have warned := (script.warnings_lenient lookup).1
  rw [none] at warned
  rw [compile, read]
  exact List.prefix_nil.mp warned

/-- The fault of the line is the fault of the query. -/
theorem Reaches.outcome_eq (reaches : Reaches lookup strict text line known) {fault : QueryFault}
    (failed : readJoin known line = .error fault) :
    (compile lookup strict text).outcome = .error fault := by
  have lenient : (compile lookup false text).outcome = .error fault := by
    have ends := compile_lenient reaches.sourced
    rw [reaches.verdict_eq failed] at ends
    cases outcome : (compile lookup false text).outcome with
    | ok plan =>
        rw [outcome] at ends
        cases ends
    | error other =>
        rw [outcome] at ends
        cases ends
        rfl
  cases strict with
  | false => exact lenient
  | true =>
      cases compile_hastens lookup text with
      | same quiet same => exact (congrArg Prod.snd same).trans lenient
      | stopped name later warned quiet fault =>
          rw [reaches.quiet failed] at warned
          cases warned

end Selectivity.Query
