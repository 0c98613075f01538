import Selectivity.Proofs.Query.Reading
import Selectivity.Session.Report

/-!
# Strict and lenient compilations

A lenient compilation warns of each relation that the catalogue lacks, once, in the order in which
the query mentions them for the first time. A strict one goes the same way up to the first warning
and ends there, so that the two differ only if something is warned of.

The reading of a script knows nothing of strictness. Hence the two compilations of a text are
compared part by part on one script: the scans, the joins, and the plan that is put together.
-/

namespace Selectivity.Query

open Text

variable {Base : Type} {lookup : String → Option Base}

/-- The relations that are warned of. -/
def warnings (notices : List Notice) : List String :=
  notices.filterMap Notice.warning?

def missing (lookup : String → Option Base) (name : String) : Bool :=
  (lookup name).isNone

/-- A strict run beside a lenient one: both are the same, or the strict one ends without a warning
at the relation that the lenient one warns of first. -/
inductive Hastens {Value : Type} (lenient strict : List Notice × Except QueryFault Value) :
    Prop where
  | same (quiet : warnings lenient.1 = []) (same : strict = lenient)
  | stopped (name : String) (later : List String) (warned : warnings lenient.1 = name :: later)
      (quiet : warnings strict.1 = []) (fault : strict.2 = .error (.unknownRelation name))

section Warnings

variable (notices more : List Notice)

@[simp]
theorem warnings_append : warnings (notices ++ more) = warnings notices ++ warnings more :=
  List.filterMap_append

@[simp]
theorem warnings_repeatedSource (name : String) :
    warnings (.repeatedSource name :: notices) = warnings notices := rfl

@[simp]
theorem warnings_skippedLine (line : String) (expected : Expectation) :
    warnings (.skippedLine line expected :: notices) = warnings notices := rfl

@[simp]
theorem warnings_unknownRelation (name : String) :
    warnings (.unknownRelation name :: notices) = name :: warnings notices := rfl

end Warnings

namespace Hastens

variable {Value Other : Type} {lenient strict : List Notice × Except QueryFault Value}

/-- What is told in front and what is made of the result do not change how two runs compare, as
long as nothing is warned of in front. -/
theorem map (front : List Notice) (image : Except QueryFault Value → Except QueryFault Other)
    (faults : ∀ fault, image (.error fault) = .error fault) (silent : warnings front = [])
    (hastens : Hastens lenient strict) :
    Hastens (front ++ lenient.1, image lenient.2) (front ++ strict.1, image strict.2) := by
  cases hastens with
  | same quiet same =>
      subst same
      apply Hastens.same
      · simp [silent, quiet]
      · rfl
  | stopped name later warned quiet fault =>
      apply Hastens.stopped name later
      · simp [silent, warned]
      · simp [silent, quiet]
      · simp only [fault, faults]

end Hastens

variable (lookup) in
theorem findSources_hastens (sources : List Source) :
    Hastens (findSources lookup false sources) (findSources lookup true sources) := by
  induction sources with
  | nil => exact .same rfl rfl
  | cons source rest induction =>
      cases source with
      | repeated name => exact induction.map [.repeatedSource name] id (fun _ => rfl) rfl
      | fresh name =>
          cases known : lookup name with
          | some base =>
              simp only [findSources, known]
              exact induction.map [] (Except.map (⟨name, base⟩ :: ·)) (fun _ => rfl) rfl
          | none =>
              simp only [findSources, known]
              exact .stopped name _ rfl rfl rfl

variable (lookup) in
theorem findJoins_hastens (body : List BodyLine) :
    Hastens (findJoins lookup false body) (findJoins lookup true body) := by
  induction body with
  | nil => exact .same rfl rfl
  | cons line rest induction =>
      cases line with
      | skipped line expected =>
          exact induction.map [.skippedLine line expected] id (fun _ => rfl) rfl
      | join name conditions =>
          cases known : lookup name with
          | some base =>
              simp only [findJoins, known]
              exact induction.map [] (Except.map (⟨⟨name, base⟩, conditions⟩ :: ·))
                (fun _ => rfl) rfl
          | none =>
              simp only [findJoins, known]
              exact .stopped name _ rfl rfl rfl

/-- The plan of a script from the scans of its products and what is found for its joins. -/
private def planOf (script : Script) (first : BaseScan Base) (others : List (BaseScan Base)) :
    Except QueryFault (List (JoinGroup Base)) → Except QueryFault (CanonicalPlan Base)
  | .error fault => .error fault
  | .ok joins =>
      script.ending.map fun selections => ⟨script.projection, first, others, joins, selections⟩

private theorem compile_of_sources {script : Script} {strict : Bool} {notices : List Notice}
    {first : BaseScan Base} {others : List (BaseScan Base)}
    (found : findSources lookup strict script.sources = (notices, .ok (first :: others))) :
    script.compile lookup strict =
      ⟨notices ++ (findJoins lookup strict script.body).1,
        planOf script first others (findJoins lookup strict script.body).2⟩ := by
  simp only [Script.compile, found]
  split
  · next more fault joined => simp only [joined, planOf]
  · next more joins joined => simp only [joined, planOf]

variable (lookup) in
theorem Script.compile_hastens (script : Script) :
    Hastens ((script.compile lookup false).notices, (script.compile lookup false).outcome)
      ((script.compile lookup true).notices, (script.compile lookup true).outcome) := by
  have sources := findSources_hastens lookup script.sources
  cases lenient : findSources lookup false script.sources with
  | mk notices found =>
      rw [lenient] at sources
      cases sources with
      | same quiet strict =>
          cases found with
          | error fault =>
              simp only [Script.compile, lenient, strict]
              exact .same quiet rfl
          | ok scans =>
              cases scans with
              | nil =>
                  simp only [Script.compile, lenient, strict]
                  exact .same quiet rfl
              | cons first others =>
                  rw [compile_of_sources lenient, compile_of_sources strict]
                  exact (findJoins_hastens lookup script.body).map notices (planOf script first others)
                    (fun _ => rfl) quiet
      | stopped name later warned quiet fault =>
          -- behind its first warning the lenient run can only tell more
          have warned : warnings notices = name :: later := warned
          obtain ⟨more, same⟩ : ∃ more, (script.compile lookup false).notices = notices ++ more := by
            cases found with
            | error fault => exact ⟨[], by simp [Script.compile, lenient]⟩
            | ok scans =>
                cases scans with
                | nil => exact ⟨[], by simp [Script.compile, lenient]⟩
                | cons first others => exact ⟨_, by rw [compile_of_sources lenient]⟩
          cases strict : findSources lookup true script.sources with
          | mk notices found =>
              rw [strict] at quiet fault
              cases fault
              apply Hastens.stopped name (later ++ warnings more)
              · simp [same, warned]
              · simpa [Script.compile, strict] using quiet
              · simp [Script.compile, strict]

variable (lookup) in
theorem findSources_lenient (sources : List Source) :
    (∃ scans, (findSources lookup false sources).2 = .ok scans) ∧
      warnings (findSources lookup false sources).1 =
        (sources.filterMap Source.fresh?).filter (missing lookup) := by
  induction sources with
  | nil => exact ⟨⟨[], rfl⟩, rfl⟩
  | cons source rest induction =>
      obtain ⟨⟨scans, found⟩, warned⟩ := induction
      cases source with
      | repeated name => exact ⟨⟨scans, found⟩, warned⟩
      | fresh name =>
          rw [List.filterMap_cons_some (f := Source.fresh?) rfl, List.filter_cons]
          cases known : lookup name with
          | some base =>
              simp only [findSources, known, missing, found, Except.map, warned]
              exact ⟨⟨_, rfl⟩, rfl⟩
          | none =>
              simp only [findSources, known, missing, found]
              exact ⟨⟨_, rfl⟩, congrArg (name :: ·) warned⟩

variable (lookup) in
theorem findJoins_lenient (body : List BodyLine) :
    (∃ groups, (findJoins lookup false body).2 = .ok groups) ∧
      warnings (findJoins lookup false body).1 =
        ((body.filterMap BodyLine.join?).map Prod.fst).filter (missing lookup) := by
  induction body with
  | nil => exact ⟨⟨[], rfl⟩, rfl⟩
  | cons line rest induction =>
      obtain ⟨⟨groups, found⟩, warned⟩ := induction
      cases line with
      | skipped line expected => exact ⟨⟨groups, found⟩, warned⟩
      | join name conditions =>
          rw [List.filterMap_cons_some (f := BodyLine.join?) rfl, List.map_cons, List.filter_cons]
          cases known : lookup name with
          | some base =>
              simp only [findJoins, known, missing, found, Except.map, warned]
              exact ⟨⟨_, rfl⟩, rfl⟩
          | none =>
              simp only [findJoins, known, missing, found]
              exact ⟨⟨_, rfl⟩, congrArg (name :: ·) warned⟩

/-- The relations that a script mentions, each where it stands first. -/
def Script.mentioned (script : Script) : List String :=
  script.sources.filterMap Source.fresh? ++ (script.body.filterMap BodyLine.join?).map Prod.fst

variable (lookup) in
/-- A lenient run that ends early has warned of all relations of the FROM clause. -/
theorem Script.warnings_lenient (script : Script) :
    warnings (script.compile lookup false).notices <+: script.mentioned.filter (missing lookup) ∧
      ∀ plan, (script.compile lookup false).outcome = .ok plan →
        warnings (script.compile lookup false).notices =
          script.mentioned.filter (missing lookup) := by
  obtain ⟨⟨scans, found⟩, warned⟩ := findSources_lenient lookup script.sources
  cases sources : findSources lookup false script.sources with
  | mk notices answer =>
      rw [sources] at found warned
      subst found
      rw [Script.mentioned, List.filter_append, ← warned]
      cases scans with
      | nil =>
          simp only [Script.compile, sources]
          exact ⟨List.prefix_append _ _, nofun⟩
      | cons first others =>
          rw [compile_of_sources sources, warnings_append, (findJoins_lenient lookup script.body).2]
          exact ⟨List.prefix_refl _, fun _ _ => rfl⟩

/-- The relations that the lines behind the FROM clause join. -/
def joinNames (rest : List (List Char)) : List String :=
  ((rest.filter (startsWith "JOIN")).filterMap joinParts?).map fun parts => String.ofList parts.1

/-- The relations that a query mentions, in order and with repetitions: the names that its second
line lists and then those that it joins. -/
def references (text : List Char) : List String :=
  match Text.lines text with
  | _ :: fromLine :: rest =>
      ((afterKeyword? "FROM" fromLine).bind words?).getD [] ++ joinNames rest
  | _ => []

theorem joinNames_of_other {line : List Char} (rest : List (List Char))
    (other : ¬ startsWith "JOIN" line = true) : joinNames (line :: rest) = joinNames rest := by
  rw [joinNames, List.filter_cons_of_neg other, joinNames]

theorem joinNames_of_read {mentioned : List String} {line : List Char}
    {join : String × List Comparison} (rest : List (List Char))
    (starts : startsWith "JOIN" line = true) (read : readJoin mentioned line = .ok join) :
    joinNames (line :: rest) = join.1 :: joinNames rest := by
  obtain ⟨found, -⟩ := readJoin_eq_ok read
  obtain ⟨⟨word, conditions⟩, parts, named⟩ := Option.bind_eq_some_iff.mp found
  obtain ⟨comparisons, -, rfl⟩ := Option.map_eq_some_iff.mp named
  rw [joinNames, List.filter_cons_of_pos starts, List.filterMap_cons_some parts, List.map_cons,
    joinNames]

/-- The lines of a body join distinct relations that were not mentioned before, those of the
script up to the first fault. -/
structure Joins (mentioned : List String) (rest : List (List Char)) (body : List BodyLine)
    (ending : Except QueryFault (List Predicate)) : Prop where
  order : (body.filterMap BodyLine.join?).map Prod.fst <+: joinNames rest
  complete : ∀ selections, ending = .ok selections →
    (body.filterMap BodyLine.join?).map Prod.fst = joinNames rest
  distinct : ((body.filterMap BodyLine.join?).map Prod.fst).Nodup
  unmentioned : ∀ name ∈ (body.filterMap BodyLine.join?).map Prod.fst, name ∉ mentioned

theorem Joins.none (mentioned : List String) {rest : List (List Char)}
    {ending : Except QueryFault (List Predicate)}
    (complete : ∀ selections, ending = .ok selections → joinNames rest = []) :
    Joins mentioned rest [] ending where
  order := List.nil_prefix
  complete := fun selections ended => (complete selections ended).symm
  distinct := List.nodup_nil
  unmentioned := nofun

theorem Joins.skip {mentioned : List String} {line : List Char} {rest : List (List Char)}
    {body : List BodyLine} {ending : Except QueryFault (List Predicate)} (text : String)
    (expected : Expectation) (other : ¬ startsWith "JOIN" line = true)
    (joins : Joins mentioned rest body ending) :
    Joins mentioned (line :: rest) (.skipped text expected :: body) ending := by
  have same := joinNames_of_other rest other
  exact ⟨by rw [same]; exact joins.order, by rw [same]; exact joins.complete, joins.distinct,
    joins.unmentioned⟩

theorem Joins.join {mentioned : List String} {line : List Char} {rest : List (List Char)}
    {body : List BodyLine} {ending : Except QueryFault (List Predicate)}
    {join : String × List Comparison} (starts : startsWith "JOIN" line = true)
    (read : readJoin mentioned line = .ok join) (joins : Joins (join.1 :: mentioned) rest body ending) :
    Joins mentioned (line :: rest) (.join join.1 join.2 :: body) ending := by
  have names : ((BodyLine.join join.1 join.2 :: body).filterMap BodyLine.join?).map Prod.fst =
      join.1 :: (body.filterMap BodyLine.join?).map Prod.fst := rfl
  have known := (readJoin_eq_ok read).2
  constructor
  · rw [names, joinNames_of_read rest starts read, List.prefix_cons_inj]
    exact joins.order
  · intro selections ended
    rw [names, joinNames_of_read rest starts read, joins.complete selections ended]
  · rw [names, List.nodup_cons]
    exact ⟨fun member => joins.unmentioned join.1 member List.mem_cons_self, joins.distinct⟩
  · intro name member
    rw [names, List.mem_cons] at member
    rcases member with rfl | later
    · exact known
    · exact fun before => joins.unmentioned name later (List.mem_cons_of_mem _ before)

theorem readBody_joins (mentioned : List String) (rest : List (List Char)) :
    Joins mentioned rest (readBody mentioned rest).1 (readBody mentioned rest).2 := by
  induction mentioned, rest using readBody.induct with
  | case1 mentioned => exact .none mentioned fun _ _ => rfl
  | case2 mentioned last starts =>
      have other : ¬ startsWith "JOIN" last = true := by simp [not_join_of_where starts]
      rw [readBody, if_pos starts]
      exact .none mentioned fun _ _ => joinNames_of_other [] other
  | case3 mentioned last noWhere starts relation conditions joined =>
      rw [readBody, if_neg noWhere, if_pos starts, joined]
      exact .join starts joined (.none _ fun _ _ => rfl)
  | case4 mentioned last noWhere starts fault failed =>
      rw [readBody, if_neg noWhere, if_pos starts, failed]
      apply Joins.none
      intro selections ended
      cases ended
  | case5 mentioned last noWhere noJoin =>
      rw [readBody, if_neg noWhere, if_neg noJoin]
      exact .skip _ _ noJoin (.none mentioned fun _ _ => rfl)
  | case6 mentioned line next rest starts relation conditions joined later ending found induction =>
      rw [readBody, if_pos starts, joined]
      rw [found] at induction
      simp only [found]
      exact .join starts joined induction
  | case7 mentioned line next rest starts fault failed =>
      rw [readBody, if_pos starts, failed]
      apply Joins.none
      intro selections ended
      cases ended
  | case8 mentioned line next rest noJoin later ending found induction =>
      rw [readBody, if_neg noJoin]
      rw [found] at induction
      simp only [found]
      exact .skip _ _ noJoin induction

theorem FromLine.words?_eq {line : List Char} {names : List String} (listed : FromLine line names) :
    (afterKeyword? "FROM" line).bind words? = some names ∧ names ≠ [] := by
  cases listed with
  | @names listed follows words =>
      constructor
      · rw [follows, Option.bind_some, words?, if_pos (List.all_eq_true.mpr words)]
      · exact fun none => items_ne_nil listed (List.map_eq_nil_iff.mp none)

theorem fresh_markRepeated_nil (names : List String) :
    (markRepeated [] names).filterMap Source.fresh? = names.eraseDups := by
  have all : (names.filter fun name => !([] : List String).contains name) = names :=
    List.filter_eq_self.mpr fun _ _ => rfl
  rw [fresh_markRepeated, all]

private theorem eraseDups_of_nodup {names : List String} (distinct : names.Nodup) :
    names.eraseDups = names := by
  induction names with
  | nil => rfl
  | cons name rest induction =>
      obtain ⟨apart, others⟩ := List.nodup_cons.mp distinct
      have kept : rest.filter (fun other => !other == name) = rest := by
        apply List.filter_eq_self.mpr
        intro other member
        have different : other ≠ name := fun same => apart (same ▸ member)
        simp [different]
      rw [List.eraseDups_cons, kept, induction others]

/-- Further distinct names stand behind the others where these are mentioned first. -/
private theorem eraseDups_append_distinct {names front : List String} (more : List String)
    (distinct : front.Nodup) (apart : ∀ name ∈ front, name ∉ names) :
    (names ++ (front ++ more)).eraseDups =
      names.eraseDups ++ (front ++ ((more.removeAll names).removeAll front).eraseDups) := by
  have kept : front.removeAll names = front := by
    apply List.filter_eq_self.mpr
    intro name member
    simpa using apart name member
  have split : (front ++ more).removeAll names = front ++ more.removeAll names := by
    calc
      (front ++ more).removeAll names = front.removeAll names ++ more.removeAll names :=
        List.filter_append front more
      _ = front ++ more.removeAll names := by rw [kept]
  rw [List.eraseDups_append, split, List.eraseDups_append, eraseDups_of_nodup distinct]

/-- What is read of a text mentions the relations in the order in which the text does so for the
first time. -/
theorem Script.mentioned_prefix {text : List Char} {script : Script}
    (read : Script.ofText text = .ok script) :
    script.mentioned <+: (references text).eraseDups ∧
      ∀ selections, script.ending = .ok selections →
        script.mentioned = (references text).eraseDups := by
  obtain ⟨selectLine, fromLine, rest, order, -, listed, behind⟩ := Script.ofText_eq_ok read
  obtain ⟨names, fromNames, sources⟩ := readSources_eq_ok listed
  have joins := readBody_joins (script.sources.map Source.name) rest
  rw [behind, sources, name_markRepeated] at joins
  have mentions : references text = names ++ joinNames rest := by
    rw [references, order]
    simp only [fromNames.words?_eq.1, Option.getD_some]
  rw [Script.mentioned, sources, fresh_markRepeated_nil, mentions]
  constructor
  · obtain ⟨more, split⟩ := joins.order
    rw [← split, eraseDups_append_distinct more joins.distinct joins.unmentioned,
      List.prefix_append_right_inj]
    exact List.prefix_append _ _
  · intro selections ended
    have whole := eraseDups_append_distinct [] joins.distinct joins.unmentioned
    rw [List.append_nil, joins.complete selections ended] at whole
    rw [joins.complete selections ended, whole]
    simp [List.removeAll]

/-- The relations that a lenient compilation warns of are missing ones, in the order in which the
text mentions them for the first time. If it succeeds, they are all of them. -/
theorem warnings_of_lenient (lookup : String → Option Base) (text : List Char) :
    warnings (compile lookup false text).notices <+:
        (references text).eraseDups.filter (missing lookup) ∧
      ∀ plan, (compile lookup false text).outcome = .ok plan →
        warnings (compile lookup false text).notices =
          (references text).eraseDups.filter (missing lookup) := by
  rw [compile]
  cases read : Script.ofText text with
  | error fault => exact ⟨List.nil_prefix, nofun⟩
  | ok script =>
      obtain ⟨warned, complete⟩ := script.warnings_lenient lookup
      obtain ⟨mentions, whole⟩ := Script.mentioned_prefix read
      constructor
      · exact warned.trans (mentions.filter _)
      · intro plan accepted
        have resolves := Script.resolves_of_compile accepted
        rw [complete plan accepted, whole plan.selections resolves.selections]

theorem compile_hastens (lookup : String → Option Base) (text : List Char) :
    Hastens ((compile lookup false text).notices, (compile lookup false text).outcome)
      ((compile lookup true text).notices, (compile lookup true text).outcome) := by
  rw [compile, compile]
  cases Script.ofText text with
  | error fault => exact .same rfl rfl
  | ok script => exact script.compile_hastens lookup

/-- The fault is one of the text and not of the catalogue. -/
def FaultOfText : QueryFault → Prop
  | .unknownRelation _ => False
  | _ => True

/-- The fault is that a line or a condition is not well formed. -/
def Malformed (fault : QueryFault) : Prop :=
  fault.problem?.isSome = true

theorem Malformed.ofText {fault : QueryFault} (malformed : Malformed fault) : FaultOfText fault := by
  cases fault with
  | unknownRelation name => exact Bool.false_ne_true malformed
  | _ => trivial

theorem readProjection_fault {line : List Char} {fault : QueryFault}
    (failed : readProjection line = .error fault) : Malformed fault := by
  unfold readProjection at failed
  split at failed
  · cases failed
    exact rfl
  · split at failed
    · cases failed
    · split at failed
      · cases failed
      · cases failed
        exact rfl

theorem readSources_fault {line : List Char} {fault : QueryFault}
    (failed : readSources line = .error fault) : Malformed fault := by
  unfold readSources at failed
  split at failed
  · cases failed
    exact rfl
  · split at failed
    · cases failed
    · cases failed
      exact rfl

theorem readComparisons_eq_error {texts : List (List Char)} {fault : QueryFault}
    (failed : readComparisons texts = .error fault) :
    ∃ item ∈ texts, fault = .joinPredicate (String.ofList item) := by
  induction texts with
  | nil => cases failed
  | cons item rest induction =>
      rw [readComparisons] at failed
      split at failed
      · cases failed
        exact ⟨item, List.mem_cons_self, rfl⟩
      · split at failed
        · cases failed
        · next other later =>
            cases failed
            obtain ⟨broken, member, same⟩ := induction later
            exact ⟨broken, List.mem_cons_of_mem item member, same⟩

theorem readConditions_eq_error {texts : List (List Char)} {fault : QueryFault}
    (failed : readConditions texts = .error fault) :
    ∃ item ∈ texts, fault = .wherePredicate (String.ofList item) := by
  induction texts with
  | nil => cases failed
  | cons item rest induction =>
      rw [readConditions] at failed
      split at failed
      · cases failed
        exact ⟨item, List.mem_cons_self, rfl⟩
      · split at failed
        · cases failed
        · next other later =>
            cases failed
            obtain ⟨broken, member, same⟩ := induction later
            exact ⟨broken, List.mem_cons_of_mem item member, same⟩

theorem readComparisons_fault {texts : List (List Char)} {fault : QueryFault}
    (failed : readComparisons texts = .error fault) : Malformed fault := by
  obtain ⟨item, -, rfl⟩ := readComparisons_eq_error failed
  rfl

theorem readJoin_fault {mentioned : List String} {line : List Char} {fault : QueryFault}
    (failed : readJoin mentioned line = .error fault) : FaultOfText fault := by
  unfold readJoin at failed
  split at failed
  · cases failed
    trivial
  · simp only at failed
    split at failed
    · cases failed
      trivial
    · split at failed
      · cases failed
      · next other compared =>
          cases failed
          exact (readComparisons_fault compared).ofText

theorem readSelections_eq_error {line : List Char} {fault : QueryFault}
    (failed : readSelections line = .error fault) :
    fault = .whereExpected (String.ofList line) ∨
      ∃ item, fault = .wherePredicate (String.ofList item) := by
  unfold readSelections at failed
  split at failed
  · cases failed
    exact Or.inl rfl
  · obtain ⟨item, -, same⟩ := readConditions_eq_error failed
    exact Or.inr ⟨item, same⟩

theorem readSelections_fault {line : List Char} {fault : QueryFault}
    (failed : readSelections line = .error fault) : Malformed fault := by
  rcases readSelections_eq_error failed with rfl | ⟨item, rfl⟩ <;> rfl

theorem readBody_fault {mentioned : List String} {rest : List (List Char)} {fault : QueryFault}
    (failed : (readBody mentioned rest).2 = .error fault) : FaultOfText fault := by
  induction mentioned, rest using readBody.induct with
  | case1 mentioned => cases failed
  | case2 mentioned last starts =>
      rw [readBody, if_pos starts] at failed
      exact (readSelections_fault failed).ofText
  | case3 mentioned last noWhere starts relation conditions joined =>
      rw [readBody, if_neg noWhere, if_pos starts, joined] at failed
      cases failed
  | case4 mentioned last noWhere starts other joined =>
      rw [readBody, if_neg noWhere, if_pos starts, joined] at failed
      cases failed
      exact readJoin_fault joined
  | case5 mentioned last noWhere noJoin =>
      rw [readBody, if_neg noWhere, if_neg noJoin] at failed
      cases failed
  | case6 mentioned line next rest starts relation conditions joined later ending found induction =>
      rw [readBody, if_pos starts, joined] at failed
      rw [found] at induction
      simp only [found] at failed
      exact induction failed
  | case7 mentioned line next rest starts other joined =>
      rw [readBody, if_pos starts, joined] at failed
      cases failed
      exact readJoin_fault joined
  | case8 mentioned line next rest noJoin later ending found induction =>
      rw [readBody, if_neg noJoin] at failed
      rw [found] at induction
      simp only [found] at failed
      exact induction failed

theorem Script.ofText_fault {text : List Char} {fault : QueryFault}
    (failed : Script.ofText text = .error fault) : Malformed fault := by
  unfold Script.ofText Script.ofLines at failed
  split at failed
  · split at failed
    · next other selected =>
        cases failed
        exact readProjection_fault selected
    · split at failed
      · next other listed =>
          cases failed
          exact readSources_fault listed
      · cases failed
  · cases failed
    exact rfl

theorem scans_ne_nil {names : List String} (some : names ≠ [])
    (found : names.eraseDups.filter (missing lookup) = []) :
    names.eraseDups.filterMap (baseScan? lookup) ≠ [] := by
  intro nothing
  obtain ⟨name, others, rfl⟩ := List.exists_cons_of_ne_nil some
  have member : name ∈ (name :: others).eraseDups := List.mem_eraseDups.mpr List.mem_cons_self
  have unscanned := List.filterMap_eq_nil_iff.mp nothing name member
  apply List.filter_eq_nil_iff.mp found name member
  rw [missing, Option.map_eq_none_iff.mp unscanned, Option.isNone_none]

/-- A lenient compilation that warns of nothing finds a relation of the FROM clause, and so its
fault is one of the text. -/
theorem fault_of_quiet {text : List Char} {fault : QueryFault}
    (quiet : warnings (compile lookup false text).notices = [])
    (failed : (compile lookup false text).outcome = .error fault) : FaultOfText fault := by
  rw [compile] at quiet failed
  cases read : Script.ofText text with
  | error other =>
      simp only [read] at failed
      cases failed
      exact (Script.ofText_fault read).ofText
  | ok script =>
      simp only [read] at quiet failed
      obtain ⟨selectLine, fromLine, rest, order, -, listed, behind⟩ := Script.ofText_eq_ok read
      obtain ⟨names, fromNames, marked⟩ := readSources_eq_ok listed
      obtain ⟨⟨scans, found⟩, warned⟩ := findSources_lenient lookup script.sources
      have scanned := findSources_eq_ok found
      cases sources : findSources lookup false script.sources with
      | mk notices answer =>
          rw [sources] at found warned
          subst found
          cases scans with
          | nil =>
              rw [filterMap_scan?, marked, fresh_markRepeated_nil] at scanned
              rw [marked, fresh_markRepeated_nil] at warned
              have silent : warnings notices = [] := by
                simpa [Script.compile, sources] using quiet
              exact absurd scanned.symm (scans_ne_nil fromNames.words?_eq.2 (warned ▸ silent))
          | cons first others =>
              rw [compile_of_sources sources] at failed
              obtain ⟨groups, joined⟩ := (findJoins_lenient lookup script.body).1
              rw [joined] at failed
              cases ended : script.ending with
              | ok selections => simp [planOf, ended, Except.map] at failed
              | error other =>
                  simp only [planOf, ended, Except.map] at failed
                  cases failed
                  apply readBody_fault
                  rw [behind, ended]

end Selectivity.Query
