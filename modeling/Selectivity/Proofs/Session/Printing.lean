import Selectivity.Proofs.Query.Operators
import Selectivity.Proofs.Query.RoundTrip
import Selectivity.Proofs.Session.Reachable

/-!
# Printed queries in a session

A session accepts every printed request over relations of its catalogue, makes the nodes of the
plan that the request denotes, and tells nothing on the way.
-/

namespace Selectivity.Session

variable {session : Session} {compiler : Compiler} {input : Query.Input}

theorem perform_compile_quiet {catalog : Catalog RelationRef}
    {plan : Query.CanonicalPlan RelationRef}
    (known : session.store.catalog? compiler.catalog = some catalog)
    (quiet : Query.compile catalog.lookup? (compiler.isStrict session) input.characters =
      ⟨[], .ok plan⟩) :
    (session.perform (.compile compiler input)).1.store =
        (plan.assemble Store.addNode session.store).1 ∧
      (session.perform (.compile compiler input)).2 =
        .success (.node (plan.assemble Store.addNode session.store).2.ref) := by
  rw [perform, known, ifKnown, compile]
  simp only [quiet, List.filterMap_nil, ite_self, Report.success, Report.ofResult, and_self]

variable (compiler) in
/-- A request over relations of a catalogue, printed in any way, is accepted without a warning and
without a line in the log. The nodes that come of it are those of the plan that the request
denotes, with one scan for each JOIN clause, and no output is known. -/
theorem printed_request_denotes_plan (reachable : session.Reachable)
    {catalog : Catalog RelationRef} {request : Query.Request} {base : String → RelationRef}
    (known : session.store.catalog? compiler.catalog = some catalog)
    (listed : ∀ name ∈ request.relations, catalog.lookup? name = some (base name))
    (printed : Query.Printed request input.characters) :
    let after := (session.perform (.compile compiler input)).1.store
    ∃ root, (session.perform (.compile compiler input)).2 = ⟨.ok (.node root.ref), [], []⟩ ∧
      after.node? root.ref = some root ∧
      Query.operators root = (request.plan base).tree ∧
      Query.Canonical root (request.plan base) ∧
      ∀ placed ∈ root.preorder, after.output? placed.ref = none := by
  have wellFormed := reachable.store_wellFormed
  have quiet := printed.compile_eq (compiler.isStrict session) listed
  obtain ⟨script, -, resolves⟩ := Query.resolves_of_compile (congrArg Query.Compilation.outcome quiet)
  obtain ⟨made, canonical⟩ := Query.assemble_made (request.plan base) wellFormed
    fun scan member => holds_of_lookup? wellFormed known (resolves.lookup_eq member)
  obtain ⟨store, report⟩ := perform_compile_quiet known quiet
  intro after
  have same : after = ((request.plan base).assemble Store.addNode session.store).1 := store
  refine ⟨_, report, ?_, canonical.operators_eq, canonical, fun placed member => ?_⟩
  · rw [same]
    exact made.new.stored
  · rw [same]
    exact made.output?_eq_none member

/-- A session with a catalogue whose names look like keywords. -/
def keywordNames : Session :=
  initial.run [.makeAttribute "a" 2, .makeRelation 6 [⟨0⟩], .makeRelation 5 [],
    .makeCatalog [("ON", ⟨0⟩), ("JOIN", ⟨1⟩), ("SON", ⟨0⟩)]]

/-- A request for attributes and relations with the names of keywords. -/
def keywordRequest : Query.Request where
  projection := some ["WHERE", "a"]
  first := "ON"
  others := ["JOIN"]
  joins := [("SON", [⟨"x", "ON"⟩])]
  conditions := [.equalsValue "a" "5", .equalsAttribute ⟨"a", "b"⟩]
  kept := nofun
  compared := by decide
  projectionWords := by decide
  sourceWords := by decide
  joinWords := by decide
  conditionWords := by decide
  distinct := by decide

/-- The request as a text with blanks of several kinds. -/
def keywordQuery : Query.Input :=
  .text "SELECT\t WHERE ,a \nFROM ON,JOIN\r\nJOIN SON ON  x=ON\nWHERE a=\"5\" , a=b"

theorem keywordQuery_printed : Query.Printed keywordRequest keywordQuery.characters := by
  have nothing : Query.Gap [] := by decide
  have blank : Query.Gap [' '] := by decide
  have rows : keywordQuery.characters =
      ['\n'].intercalate
        (("SELECT".toList ++ (['\t', ' '] ++
            (("WHERE".toList ++ ([' '] ++ ',' :: ([] ++ "a".toList))) ++ [' ']))) ::
          ("FROM".toList ++ ([' '] ++
            (("ON".toList ++ ([] ++ ',' :: ([] ++ "JOIN".toList))) ++ ['\r']))) ::
          (["JOIN".toList ++ ([' '] ++ ("SON".toList ++ ([' '] ++ ("ON".toList ++
            ([' ', ' '] ++ ("x=ON".toList ++ []))))))] ++
          ["WHERE".toList ++ ([' '] ++
            (("a=\"5\"".toList ++ ([' '] ++ ',' :: ([' '] ++ "a=b".toList))) ++ []))])) ++
        [] := by
    decide +kernel
  have listed : keywordRequest.conditions ≠ [] := List.cons_ne_nil _ _
  rw [rows]
  refine .text (.rows ?_ ?_ (.cons ?_ .nil) (.line listed ?_)) (Or.inl rfl)
  · exact .line ⟨nofun, by decide⟩ (.cons "WHERE" blank nothing (.single "a")) blank
  · exact .line ⟨nofun, by decide⟩ (.cons "ON" nothing nothing (.single "JOIN")) (by decide)
  · exact .line ⟨nofun, by decide⟩ ⟨nofun, by decide⟩ ⟨nofun, by decide⟩ (.single "x=ON") nothing
  · exact .line ⟨nofun, by decide⟩ (.cons "a=\"5\"" blank blank (.single "a=b")) nothing

theorem keywordQuery_denotes_plan :
    keywordNames.Reachable ∧
      ∃ base : String → RelationRef, ∃ root,
        (keywordNames.perform (.compile ⟨⟨0⟩, none, true⟩ keywordQuery)).2 =
            ⟨.ok (.node root.ref), [], []⟩ ∧
          Query.operators root = (keywordRequest.plan base).tree := by
  have reachable : keywordNames.Reachable := reachable_run _
  let base : String → RelationRef := fun name => ⟨if name = "JOIN" then 1 else 0⟩
  obtain ⟨catalog, known, listed⟩ : ∃ catalog, keywordNames.store.catalog? ⟨0⟩ = some catalog ∧
      ∀ name ∈ keywordRequest.relations, catalog.lookup? name = some (base name) :=
    ⟨_, rfl, by decide +kernel⟩
  obtain ⟨root, report, -, operators, -⟩ :=
    printed_request_denotes_plan ⟨⟨0⟩, none, true⟩ reachable known listed keywordQuery_printed
  exact ⟨reachable, base, root, report, operators⟩

end Selectivity.Session
