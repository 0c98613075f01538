import Selectivity.Proofs.Estimation.Relocation
import Selectivity.Proofs.Session.Compilation
import Selectivity.Proofs.Session.Progress

/-!
# Queries one after the other

A query that is put to a catalogue is compiled, and its plan is estimated. This leaves the
statistics of the catalogue as they are and makes nodes and relations of its own, so that a query
gets the answer that it would have got as the first one.
-/

namespace Selectivity

/-- A query that is put to a catalogue. -/
structure Question where
  strict : Option Bool
  verbose : Bool
  /-- Does the estimation tell its progress? -/
  progress : Bool
  input : Query.Input

/-- What is told about a query: the plan has its statistics, as far as they could be estimated. -/
structure Answer where
  warnings : List String
  log : List LogEntry
  plan : Option Plan
  fault : Option Fault

def Report.fault? (report : Report) : Option Fault :=
  match report.result with
  | .ok _ => none
  | .error fault => some fault

namespace Session

/-- Compiles a query against a catalogue, and estimates the plan if there is one. -/
def ask (session : Session) (catalog : CatalogRef) (question : Question) : Session × Answer :=
  let (compiled, report) := session.perform
    (.compile ⟨catalog, question.strict, question.verbose⟩ question.input)
  match report.result with
  | .ok (.node root) =>
      let (estimated, progress) := compiled.perform (.estimate root question.progress)
      (estimated, ⟨report.warnings, report.log ++ progress.log,
        (estimated.store.node? root).map estimated.store.plan, progress.fault?⟩)
  | _ => (compiled, ⟨report.warnings, report.log, none, report.fault?⟩)

def askAll (session : Session) (catalog : CatalogRef) (questions : List Question) : Session :=
  questions.foldl (fun session question => (session.ask catalog question).1) session

variable {session later : Session} {ref : CatalogRef} {catalog : Catalog RelationRef}
  {question : Question}

/-- The lines of the log before the estimation. -/
def compilationLog (question : Question) (notices : List Query.Notice) : List LogEntry :=
  if question.verbose then notices.filterMap Query.Notice.logEntry? else []

/-- The lines of the log of the estimation. -/
def progressLog (question : Question) (computed : List Computed) : List LogEntry :=
  if question.progress then computed.map Computed.logEntry else []

theorem ask_refused {fault : QueryFault} (known : session.store.catalog? ref = some catalog)
    (refused : (Query.compile catalog.lookup? (question.strict.getD session.strict)
      question.input.characters).outcome = .error fault) :
    let notices := (Query.compile catalog.lookup? (question.strict.getD session.strict)
      question.input.characters).notices
    session.ask ref question = (session, ⟨notices.filterMap Query.Notice.warning?,
      compilationLog question notices, none, some (.query fault)⟩) := by
  intro notices
  simp only [ask, perform, known, ifKnown, compile, Compiler.isStrict, refused, Report.fault?,
    compilationLog, notices]

/-- The answer to a query that is accepted is told by its compilation and by the estimation of the
nodes that are made for it. -/
theorem ask_accepted (wellFormed : session.store.WellFormed)
    (known : session.store.catalog? ref = some catalog) {plan : Query.CanonicalPlan RelationRef}
    (accepted : (Query.compile catalog.lookup? (question.strict.getD session.strict)
      question.input.characters).outcome = .ok plan) :
    let notices := (Query.compile catalog.lookup? (question.strict.getD session.strict)
      question.input.characters).notices
    let made := plan.assemble Store.addNode session.store
    let estimation := made.1.estimateNode made.2
    session.ask ref question = (⟨estimation.store, session.strict⟩,
      ⟨notices.filterMap Query.Notice.warning?,
        compilationLog question notices ++ progressLog question estimation.computed,
        some (estimation.store.plan made.2), estimation.fault.map Fault.estimate⟩) := by
  intro notices made estimation
  have bases := holds_of_compile wellFormed known accepted
  have root := (Query.assemble_made plan wellFormed bases).1
  have stored : made.1.node? made.2.ref = some made.2 := root.new.stored
  have unknown : made.1.output? made.2.ref = none := root.root_unknown
  have runs := (Store.Sound.refl root.grown.wellFormed).estimateNode root.grown.wellFormed made.2
    stored unknown
  have kept : estimation.store.node? made.2.ref = some made.2 :=
    runs.extension.nodes made.2.ref made.2 stored
  have compiled : session.perform
      (.compile ⟨ref, question.strict, question.verbose⟩ question.input) =
      (⟨made.1, session.strict⟩, ⟨.ok (.node made.2.ref),
        notices.filterMap Query.Notice.warning?, compilationLog question notices⟩) := by
    simp only [perform, known, ifKnown, compile, Compiler.isStrict, accepted, compilationLog,
      notices, made]
  rw [ask, compiled]
  simp only [perform, ifKnown, stored, estimate, unknown, Option.isSome_none, Bool.false_eq_true,
    if_false]
  rw [show made.1.estimateNode made.2 = estimation from rfl, kept]
  cases estimation.fault with
  | some fault => rfl
  | none => cases estimation.store.output? made.2.ref <;> rfl

/-- A later session has everything that was there before, and compiles as strictly. -/
structure Continues (session later : Session) : Prop where
  wellFormed : later.store.WellFormed
  extension : session.store.Extends later.store
  strict : later.strict = session.strict

theorem ask_continues (wellFormed : session.store.WellFormed)
    (known : session.store.catalog? ref = some catalog) (question : Question) :
    session.Continues (session.ask ref question).1 := by
  cases outcome : (Query.compile catalog.lookup? (question.strict.getD session.strict)
      question.input.characters).outcome with
  | error fault =>
      rw [ask_refused known outcome]
      exact ⟨wellFormed, .refl session.store, rfl⟩
  | ok plan =>
      have bases := holds_of_compile wellFormed known outcome
      have root := (Query.assemble_made plan wellFormed bases).1
      have settled := root.grown.wellFormed
      have runs := (Store.Sound.refl settled).estimateNode settled _ root.new.stored
        root.root_unknown
      rw [ask_accepted wellFormed known outcome]
      exact ⟨runs.sound.wellFormed, root.grown.extension.trans runs.extension, rfl⟩

theorem askAll_continues (wellFormed : session.store.WellFormed)
    (known : session.store.catalog? ref = some catalog) (questions : List Question) :
    session.Continues (session.askAll ref questions) := by
  induction questions generalizing session with
  | nil => exact ⟨wellFormed, .refl session.store, rfl⟩
  | cons question rest induction =>
      have first := ask_continues wellFormed known question
      have others := induction first.wellFormed (first.extension.catalogs ref catalog known)
      exact ⟨others.wellFormed, first.extension.trans others.extension,
        others.strict.trans first.strict⟩

theorem Continues.size_le (continues : session.Continues later) :
    session.store.nodes.size ≤ later.store.nodes.size := by
  rcases Nat.eq_zero_or_pos session.store.nodes.size with empty | used
  · rw [empty]
    exact Nat.zero_le _
  · have last : session.store.nodes.size - 1 < session.store.nodes.size := Nat.sub_one_lt_of_lt used
    obtain ⟨node, stored⟩ :
        ∃ node, session.store.node? ⟨session.store.nodes.size - 1⟩ = some node :=
      Store.node?_of_lt last
    obtain ⟨cell, here, -⟩ := Option.map_eq_some_iff.mp
      (continues.extension.nodes _ node stored)
    have inside : session.store.nodes.size - 1 < later.store.nodes.size :=
      (Array.getElem?_eq_some_iff.mp here).1
    omega

/-- The nodes of one plan that are made now and later have the same surroundings. -/
theorem Continues.mirrors (wellFormed : session.store.WellFormed)
    (continues : session.Continues later) {plan : Query.CanonicalPlan RelationRef}
    (bases : ∀ scan ∈ plan.scans, session.store.Holds scan.base) :
    ∃ window limit, Store.Mirrors window limit (plan.assemble Store.addNode session.store).1
        (plan.assemble Store.addNode later.store).1 ∧
      window.Holds limit (plan.assemble Store.addNode session.store).2 ∧
      (plan.assemble Store.addNode later.store).2 =
        (plan.assemble Store.addNode session.store).2.shift window.distance := by
  let window : Window := ⟨session.store.nodes.size,
    later.store.nodes.size - session.store.nodes.size, session.store.Holds⟩
  have far : later.store.nodes.size = session.store.nodes.size + window.distance :=
    (Nat.add_sub_of_le continues.size_le).symm
  have beside : Query.Beside window session.store later.store := ⟨Nat.le_refl _, far⟩
  have twins := Query.assemble_twins plan beside bases
  have near := (Query.assemble_made plan wellFormed bases).1.grown
  have further := (Query.assemble_made plan continues.wellFormed fun scan member =>
    (bases scan member).mono continues.extension).1.grown
  refine ⟨window, _, ⟨near.wellFormed, further.wellFormed, rfl, twins.size, ?_, ?_⟩,
    twins.within, twins.same⟩
  · intro ref start
    have before : session.store.nodes[ref.index]? = none := Array.getElem?_eq_none start
    have after : later.store.nodes[(ref.shift window.distance).index]? = none := by
      apply Array.getElem?_eq_none
      rw [far]
      exact Nat.add_le_add_right start _
    rw [Store.outputRelation?, Store.outputRelation?, further.outputs, near.outputs, Store.output?,
      Store.output?, before, after]
    rfl
  · intro base held
    have kept := held.mono continues.extension
    refine ⟨held.mono near.extension, kept.mono further.extension, ?_⟩
    rw [Store.relation_eq_of_extends further.extension continues.wellFormed kept,
      Store.relation_eq_of_extends continues.extension wellFormed held,
      Store.relation_eq_of_extends near.extension wellFormed held]

/-- A query gets the same answer later. -/
theorem ask_later (wellFormed : session.store.WellFormed) (continues : session.Continues later)
    (known : session.store.catalog? ref = some catalog) (question : Question) :
    (later.ask ref question).2 = (session.ask ref question).2 := by
  have still : later.store.catalog? ref = some catalog :=
    continues.extension.catalogs ref catalog known
  cases outcome : (Query.compile catalog.lookup? (question.strict.getD session.strict)
      question.input.characters).outcome with
  | error fault =>
      have again := outcome
      rw [← continues.strict] at again
      rw [ask_refused known outcome, ask_refused still again, continues.strict]
  | ok plan =>
      have again := outcome
      rw [← continues.strict] at again
      have bases := holds_of_compile wellFormed known outcome
      obtain ⟨window, limit, mirrors, within, place⟩ := continues.mirrors wellFormed bases
      have alike := mirrors.estimateNode _ within
      have lines : ∀ computed : List Computed,
          progressLog question (computed.map (Computed.shift window.distance)) =
            progressLog question computed := by
        intro computed
        rw [progressLog, progressLog, List.map_map]
        rfl
      rw [ask_accepted wellFormed known outcome,
        ask_accepted continues.wellFormed still again]
      simp only [place, continues.strict, alike.computed, alike.fault, lines,
        alike.stores.plan_eq _ within]

end Session

end Selectivity
