import Selectivity.Proofs.Query.Reading
import Selectivity.Proofs.Session.Reachable

/-!
# Compilation in a session

A query that a session accepts has become a canonical plan of new nodes, whose parts are what the
lines of the query say.
-/

namespace Selectivity.Session

variable {session : Session} {compiler : Compiler} {input : Query.Input}

/-- An accepted query was compiled against a catalogue that the session knows, and its parts have
been made into nodes. -/
theorem compile_accepted {outcome : Outcome}
    (accepted : (session.perform (.compile compiler input)).2.result = .ok outcome) :
    ∃ catalog plan, session.store.catalog? compiler.catalog = some catalog ∧
      (Query.compile catalog.lookup? (compiler.isStrict session) input.characters).outcome =
        .ok plan ∧
      (session.perform (.compile compiler input)).1.store =
        (plan.assemble Store.addNode session.store).1 ∧
      outcome = .node (plan.assemble Store.addNode session.store).2.ref := by
  rw [perform] at accepted ⊢
  cases known : session.store.catalog? compiler.catalog with
  | none =>
      rw [known] at accepted
      cases accepted
  | some catalog =>
      rw [known, ifKnown] at accepted
      rw [ifKnown]
      cases told : (Query.compile catalog.lookup? (compiler.isStrict session)
          input.characters).outcome with
      | error fault =>
          rw [(compile_error told).2] at accepted
          cases accepted
      | ok plan =>
          obtain ⟨store, result⟩ := compile_ok told
          rw [result] at accepted
          cases accepted
          exact ⟨catalog, plan, rfl, told, store, rfl⟩

/-- A session with a catalogue of three names, two of them for one relation. -/
def threeNames : Session :=
  initial.run [.makeAttribute "a" 2, .makeRelation 6 [⟨0⟩], .makeRelation 5 [],
    .makeCatalog [("R", ⟨0⟩), ("S", ⟨1⟩), ("T", ⟨0⟩)]]

/-- A query that lists a relation twice, names a relation that is missing, has a line that says
nothing and joins over two conditions. -/
def unevenQuery : Query.Input :=
  .text "SELECT a, b\nFROM R, X, S, R\n\nnothing\nJOIN T ON a=c,b=c\nWHERE a=\"5\",a=b"

end Selectivity.Session
