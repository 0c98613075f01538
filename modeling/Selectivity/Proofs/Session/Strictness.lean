import Selectivity.Proofs.Query.Strictness
import Selectivity.Proofs.Session.Reachable

/-!
# Strict and lenient compilers in a session

Whatever a lenient compiler makes of a query without a warning, a strict one makes of it as well. A
warning of the lenient compiler is the fault of the strict one.
-/

namespace Selectivity.Session

variable {session : Session} {lenient strict : Compiler} {input : Query.Input}

theorem warnings_compile (catalog : Catalog RelationRef) (strictly verbose : Bool) :
    (session.compile catalog strictly verbose input).2.warnings =
      Query.warnings (Query.compile catalog.lookup? strictly input.characters).notices := by
  unfold compile
  dsimp only
  split <;> rfl

/-- Compilations with one outcome have one result, whatever they tell on the way. -/
theorem compile_congr {catalog : Catalog RelationRef} {first second : Bool} (verbose other : Bool)
    (same : (Query.compile catalog.lookup? first input.characters).outcome =
      (Query.compile catalog.lookup? second input.characters).outcome) :
    (session.compile catalog first verbose input).1 =
        (session.compile catalog second other input).1 ∧
      (session.compile catalog first verbose input).2.result =
        (session.compile catalog second other input).2.result := by
  unfold compile
  dsimp only
  rw [same]
  split <;> exact ⟨rfl, rfl⟩

theorem eq_error_of_compile {catalog : Catalog RelationRef} {strictly verbose : Bool}
    {fault : QueryFault}
    (failed : (session.compile catalog strictly verbose input).2.result = .error (.query fault)) :
    (Query.compile catalog.lookup? strictly input.characters).outcome = .error fault := by
  unfold compile at failed
  dsimp only at failed
  split at failed
  · next other told =>
      cases failed
      exact told
  · cases failed

theorem exists_plan_of_compile {catalog : Catalog RelationRef} {strictly verbose : Bool}
    {outcome : Outcome}
    (accepted : (session.compile catalog strictly verbose input).2.result = .ok outcome) :
    ∃ plan, (Query.compile catalog.lookup? strictly input.characters).outcome = .ok plan := by
  unfold compile at accepted
  dsimp only at accepted
  split at accepted
  · cases accepted
  · next plan told => exact ⟨plan, told⟩

/-- A lenient compilation warns of distinct missing relations, in the order of first mention. -/
theorem lenient_warnings (catalog : Catalog RelationRef) (verbose : Bool) :
    let report := (session.compile catalog false verbose input).2
    let absent := (Query.references input.characters).eraseDups.filter
      (Query.missing catalog.lookup?)
    report.warnings.Nodup ∧ (∀ name ∈ report.warnings, catalog.lookup? name = none) ∧
      report.warnings <+: absent ∧
      ∀ outcome, report.result = .ok outcome → report.warnings = absent := by
  intro report absent
  have warned : report.warnings =
      Query.warnings (Query.compile catalog.lookup? false input.characters).notices :=
    warnings_compile catalog false verbose
  obtain ⟨ordered, whole⟩ := Query.warnings_of_lenient catalog.lookup? input.characters
  rw [warned]
  refine ⟨?_, ?_, ordered, ?_⟩
  · exact ((Entries.nodup_eraseDups _).sublist List.filter_sublist).sublist ordered.sublist
  · intro name member
    have isMissing := (List.mem_filter.mp (ordered.subset member)).2
    exact Option.isNone_iff_eq_none.mp isMissing
  · intro outcome accepted
    obtain ⟨plan, told⟩ := exists_plan_of_compile accepted
    exact whole plan told

variable (session input) in
theorem compile_strict_beside_lenient (catalog : Catalog RelationRef) (verbose other : Bool) :
    let relaxed := session.compile catalog false verbose input
    let severe := session.compile catalog true other input
    severe.2.warnings = [] ∧
      (relaxed.2.warnings = [] →
        severe.1 = relaxed.1 ∧ severe.2.result = relaxed.2.result) ∧
      (∀ name later, relaxed.2.warnings = name :: later →
        severe.1 = session ∧ severe.2.result = .error (.query (.unknownRelation name))) ∧
      ∀ name, severe.2.result = .error (.query (.unknownRelation name)) →
        relaxed.2.warnings ≠ [] := by
  simp only [warnings_compile]
  cases Query.compile_hastens catalog.lookup? input.characters with
  | same quiet same =>
      obtain ⟨notices, outcome⟩ := Prod.mk.inj same
      refine ⟨?_, fun _ => compile_congr _ _ outcome, ?_, ?_⟩
      · rw [notices]
        exact quiet
      · intro name later warned
        rw [quiet] at warned
        cases warned
      · intro name failed
        have told := (eq_error_of_compile failed).symm.trans outcome
        exact absurd (Query.fault_of_quiet quiet told.symm) id
  | stopped name later warned quiet fault =>
      obtain ⟨unchanged, failed⟩ := compile_error fault
      rw [warned]
      refine ⟨quiet, nofun, ?_, fun _ _ => List.cons_ne_nil _ _⟩
      intro _ _ same
      cases same
      exact ⟨unchanged, failed⟩

variable (session input lenient strict) in
/-- The strict compilation of a query never warns. If the lenient compilation does not warn either,
both have one outcome. Otherwise the strict one is refused for the relation of the first warning,
and only then is it refused for a missing relation. The lenient warnings are for distinct missing
relations in the order in which the query mentions them for the first time, and if the lenient
compilation succeeds, for all of them. -/
theorem strict_ends_at_first_warning (catalogs : strict.catalog = lenient.catalog)
    (isLenient : lenient.isStrict session = false) (isStrict : strict.isStrict session = true) :
    let relaxed := session.perform (.compile lenient input)
    let severe := session.perform (.compile strict input)
    severe.2.warnings = [] ∧
      (relaxed.2.warnings = [] →
        severe.1 = relaxed.1 ∧ severe.2.result = relaxed.2.result) ∧
      (∀ name later, relaxed.2.warnings = name :: later →
        severe.1 = session ∧ severe.2.result = .error (.query (.unknownRelation name))) ∧
      (∀ name, severe.2.result = .error (.query (.unknownRelation name)) →
        relaxed.2.warnings ≠ []) ∧
      ∀ catalog, session.store.catalog? lenient.catalog = some catalog →
        relaxed.2.warnings.Nodup ∧
          (∀ name ∈ relaxed.2.warnings, catalog.lookup? name = none) ∧
          relaxed.2.warnings <+: (Query.references input.characters).eraseDups.filter
            (Query.missing catalog.lookup?) ∧
          ∀ outcome, relaxed.2.result = .ok outcome →
            relaxed.2.warnings = (Query.references input.characters).eraseDups.filter
              (Query.missing catalog.lookup?) := by
  simp only [perform, catalogs, isLenient, isStrict]
  cases known : session.store.catalog? lenient.catalog with
  | none => exact ⟨rfl, fun _ => ⟨rfl, rfl⟩, nofun, nofun, nofun⟩
  | some catalog =>
      obtain ⟨silent, agree, stops, only⟩ :=
        compile_strict_beside_lenient session input catalog lenient.verbose strict.verbose
      refine ⟨silent, agree, stops, only, ?_⟩
      rintro _ ⟨⟩
      exact lenient_warnings catalog lenient.verbose

/-- A session with a catalogue of two names. -/
def twoNames : Session :=
  initial.run [.makeAttribute "a" 2, .makeRelation 6 [⟨0⟩],
    .makeCatalog [("R", ⟨0⟩), ("S", ⟨0⟩)]]

/-- A query that mentions two relations that are missing, one of them twice. -/
def gappyQuery : Query.Input :=
  .text "SELECT *\nFROM R, X, X\nJOIN Y ON a=b\nJOIN S ON a=a"

/-- The lenient compilation succeeds with a warning for each of them, and the strict one ends at
the first of them. -/
theorem gappyQuery_ends_at_first_warning :
    (twoNames.perform (.compile ⟨⟨0⟩, none, false⟩ gappyQuery)).2.warnings = ["X", "Y"] ∧
      (Query.references gappyQuery.characters).eraseDups = ["R", "X", "Y", "S"] ∧
      (twoNames.perform (.compile ⟨⟨0⟩, some true, false⟩ gappyQuery)).2.result =
        .error (.query (.unknownRelation "X")) := by
  have warned : (twoNames.perform (.compile ⟨⟨0⟩, none, false⟩ gappyQuery)).2.warnings =
      ["X", "Y"] := by decide +kernel
  have mentioned : (Query.references gappyQuery.characters).eraseDups = ["R", "X", "Y", "S"] := by
    decide +kernel
  obtain ⟨-, -, stops, -⟩ := strict_ends_at_first_warning twoNames ⟨⟨0⟩, none, false⟩
    ⟨⟨0⟩, some true, false⟩ gappyQuery rfl rfl rfl
  exact ⟨warned, mentioned, (stops "X" ["Y"] warned).2⟩

end Selectivity.Session
