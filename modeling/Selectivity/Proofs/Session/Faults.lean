import Selectivity.Proofs.Query.Faults
import Selectivity.Proofs.Session.Compilation

/-!
# Refused queries in a session

A lenient compiler refuses a query for what its text says. The catalogue only matters if it has no
relation of the FROM line.
-/

namespace Selectivity.Session

variable {session : Session} {compiler : Compiler} {input : Query.Input}
  {catalog : Catalog RelationRef}

variable (input) in
/-- A compilation in a session succeeds or is refused like the compilation of the text. -/
theorem perform_compile_result (known : session.store.catalog? compiler.catalog = some catalog) :
    let told := (Query.compile catalog.lookup? (compiler.isStrict session) input.characters).outcome
    let result := (session.perform (.compile compiler input)).2.result
    (∃ plan outcome, told = .ok plan ∧ result = .ok outcome) ∨
      ∃ fault, told = .error fault ∧ result = .error (.query fault) := by
  intro told result
  have same : result = (session.compile catalog (compiler.isStrict session) compiler.verbose
      input).2.result := by
    simp only [result, perform, known, ifKnown]
  cases outcome : told with
  | error fault => exact Or.inr ⟨fault, rfl, same.trans (compile_error outcome).2⟩
  | ok plan => exact Or.inl ⟨plan, _, rfl, same.trans (compile_ok outcome).2⟩

/-- A lenient compiler that has found a relation of the FROM line succeeds or is refused as the text
says. -/
theorem perform_compile_verdict (known : session.store.catalog? compiler.catalog = some catalog)
    (lenient : compiler.isStrict session = false)
    (sourced : Query.Sourced catalog.lookup? input.characters) :
    let result := (session.perform (.compile compiler input)).2.result
    Query.verdict input.characters = .ok () ∧ (∃ outcome, result = .ok outcome) ∨
      ∃ fault, Query.verdict input.characters = .error fault ∧ result = .error (.query fault) := by
  have ends := Query.compile_lenient sourced
  have results := perform_compile_result input known
  rw [lenient] at results
  rcases results with ⟨plan, outcome, told, result⟩ | ⟨fault, told, result⟩
  · rw [told] at ends
    exact Or.inl ⟨ends.symm, outcome, result⟩
  · rw [told] at ends
    exact Or.inr ⟨fault, ends.symm, result⟩

theorem perform_compile_error_iff (known : session.store.catalog? compiler.catalog = some catalog)
    (fault : QueryFault) :
    (session.perform (.compile compiler input)).2.result = .error (.query fault) ↔
      (Query.compile catalog.lookup? (compiler.isStrict session) input.characters).outcome =
        .error fault := by
  rcases perform_compile_result input known with
    ⟨plan, outcome, told, result⟩ | ⟨other, told, result⟩
  · rw [told, result]
    exact iff_of_false nofun nofun
  · rw [told, result, Except.error.injEq, Except.error.injEq, Fault.query.injEq]

variable (session compiler input) in
/-- Two lenient compilers of one query that both find a relation of its FROM line both succeed, or
both refuse it for the same fault. A lenient compiler refuses a relation as repeated exactly if it
finds a relation of the FROM line and the reading gets to a JOIN line with a relation that the query
has mentioned before. If it finds none, and the first two lines are well formed, it refuses the last
relation that is listed. -/
theorem catalog_decides_no_other_fault
    (known : session.store.catalog? compiler.catalog = some catalog)
    (lenient : compiler.isStrict session = false) :
    let text := input.characters
    let result := (session.perform (.compile compiler input)).2.result
    (∀ (later : Session) (other : Compiler) (another : Catalog RelationRef),
      later.store.catalog? other.catalog = some another → other.isStrict later = false →
      Query.Sourced catalog.lookup? text → Query.Sourced another.lookup? text →
      let answer := (later.perform (.compile other input)).2.result
      (∃ outcome, result = .ok outcome) ∧ (∃ outcome, answer = .ok outcome) ∨
        ∃ fault, result = .error (.query fault) ∧ answer = .error (.query fault)) ∧
    (∀ name, result = .error (.query (.repeatedRelation name)) ↔
      Query.Sourced catalog.lookup? text ∧ Query.Repeats text name) ∧
    ∀ selectLine fromLine rest projection names,
      Text.lines text = selectLine :: fromLine :: rest →
      Query.SelectLine selectLine projection → Query.FromLine fromLine names →
      (∀ name ∈ names, catalog.lookup? name = none) →
      ∃ name, names.getLast? = some name ∧
        result = .error (.query (.unknownRelation name)) := by
  intro text result
  refine ⟨?_, ?_, ?_⟩
  · intro later other another there relaxed sourced sourcedThere answer
    rcases perform_compile_verdict known lenient sourced with ⟨quiet, here⟩ | ⟨fault, refused, here⟩
    · rcases perform_compile_verdict there relaxed sourcedThere with ⟨-, also⟩ | ⟨_, refused, -⟩
      · exact Or.inl ⟨here, also⟩
      · rw [quiet] at refused
        cases refused
    · rcases perform_compile_verdict there relaxed sourcedThere with ⟨quiet, -⟩ | ⟨_, again, also⟩
      · rw [quiet] at refused
        cases refused
      · rw [refused] at again
        cases again
        exact Or.inr ⟨fault, here, also⟩
  · intro name
    rw [perform_compile_error_iff known, lenient]
    exact Query.compile_repeated_iff
  · intro selectLine fromLine rest projection names order selected sources absent
    obtain ⟨name, last, refused⟩ := Query.compile_unsourced order selected sources absent
    refine ⟨name, last, (perform_compile_error_iff known _).mpr ?_⟩
    rw [lenient]
    exact refused

/-- A catalogue with two relations, one with another relation, and one with none. -/
def threeCatalogs : Session :=
  initial.run [.makeAttribute "a" 2, .makeRelation 6 [⟨0⟩],
    .makeCatalog [("R", ⟨0⟩), ("T", ⟨0⟩)], .makeCatalog [("S", ⟨0⟩)], .makeCatalog []]

/-- A query that joins a relation twice, the second time by a line without a comparison. -/
def twiceJoined : Query.Input :=
  .text "SELECT *\nFROM R, S, R\nJOIN T ON a=b\nnothing\nJOIN T ON nothing"

theorem twiceJoined_refused :
    let result (catalog : CatalogRef) :=
      (threeCatalogs.perform (.compile ⟨catalog, none, false⟩ twiceJoined)).2.result
    result ⟨0⟩ = .error (.query (.repeatedRelation "T")) ∧
      result ⟨1⟩ = .error (.query (.repeatedRelation "T")) ∧
      result ⟨2⟩ = .error (.query (.unknownRelation "R")) := by
  intro result
  let selectLine := "SELECT *".toList
  let fromLine := "FROM R, S, R".toList
  have order : Text.lines twiceJoined.characters = [selectLine, fromLine, "JOIN T ON a=b".toList,
      "nothing".toList, "JOIN T ON nothing".toList] := by decide +kernel
  have asterisk : Query.afterKeyword? "SELECT" selectLine = some ['*'] := by decide +kernel
  have selected : Query.SelectLine selectLine none := .all asterisk (by decide +kernel)
  have sources : Query.FromLine fromLine ["R", "S", "R"] := by
    have follows : Query.afterKeyword? "FROM" fromLine = some "R, S, R".toList := by decide +kernel
    have names : (Text.items "R, S, R".toList).map String.ofList = ["R", "S", "R"] := by
      decide +kernel
    have words := Query.FromLine.names follows (by decide +kernel)
    rwa [names] at words
  have repeats : Query.Repeats twiceJoined.characters "T" := by
    have first : Query.joinLine? "JOIN T ON a=b".toList = some ("T", [⟨"a", "b"⟩]) := by
      decide +kernel
    have passes : Query.Passes ["R", "S", "R"] ["JOIN T ON a=b".toList, "nothing".toList]
        ["T", "R", "S", "R"] :=
      .join first (by decide) (.skip (by decide +kernel) (.none _))
    exact .line selectLine fromLine "JOIN T ON nothing".toList _ [] none _ _ "T".toList
      "nothing".toList order selected sources passes (by decide +kernel) (by decide) (by decide)
  have sourced : ∀ (catalog : Catalog RelationRef) (name : String) (base : RelationRef),
      name ∈ ["R", "S", "R"] → catalog.lookup? name = some base →
      Query.Sourced catalog.lookup? twiceJoined.characters := by
    intro catalog name base member found first second rest names split listed
    cases order.symm.trans split
    have same : names = ["R", "S", "R"] := by
      have told := sources.words?_eq.1
      rw [listed.words?_eq.1] at told
      exact Option.some.inj told
    rw [same]
    exact ⟨name, member, base, found⟩
  obtain ⟨catalog, known⟩ := Option.isSome_iff_exists.mp
    (show (threeCatalogs.store.catalog? ⟨0⟩).isSome = true by decide +kernel)
  obtain ⟨another, there⟩ := Option.isSome_iff_exists.mp
    (show (threeCatalogs.store.catalog? ⟨1⟩).isSome = true by decide +kernel)
  obtain ⟨blank, empty⟩ := Option.isSome_iff_exists.mp
    (show (threeCatalogs.store.catalog? ⟨2⟩).isSome = true by decide +kernel)
  have here : Query.Sourced catalog.lookup? twiceJoined.characters := by
    refine sourced catalog "R" ⟨0⟩ (by decide) ?_
    rw [← Option.bind_some catalog fun found => found.lookup? "R", ← known]
    decide +kernel
  have also : Query.Sourced another.lookup? twiceJoined.characters := by
    refine sourced another "S" ⟨0⟩ (by decide) ?_
    rw [← Option.bind_some another fun found => found.lookup? "S", ← there]
    decide +kernel
  have nothing : ∀ name ∈ ["R", "S", "R"], blank.lookup? name = none := by
    have each : (threeCatalogs.store.catalog? ⟨2⟩).all (fun found =>
        ["R", "S", "R"].all fun name => (found.lookup? name).isNone) = true := by decide +kernel
    rw [empty, Option.all_some, List.all_eq_true] at each
    exact fun name member => Option.isNone_iff_eq_none.mp (each name member)
  obtain ⟨agree, repeated, -⟩ :=
    catalog_decides_no_other_fault threeCatalogs ⟨⟨0⟩, none, false⟩ twiceJoined known rfl
  obtain ⟨-, -, unknown⟩ :=
    catalog_decides_no_other_fault threeCatalogs ⟨⟨2⟩, none, false⟩ twiceJoined empty rfl
  have refused := (repeated "T").mpr ⟨here, repeats⟩
  refine ⟨refused, ?_, ?_⟩
  · rcases agree threeCatalogs ⟨⟨1⟩, none, false⟩ another there rfl here also with
      ⟨⟨outcome, accepted⟩, -⟩ | ⟨fault, same, refusedAlso⟩
    · rw [refused] at accepted
      cases accepted
    · rw [refused] at same
      cases same
      exact refusedAlso
  · obtain ⟨name, last, told⟩ := unknown _ _ _ _ _ order selected sources nothing
    cases last
    exact told

end Selectivity.Session
