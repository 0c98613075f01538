import Selectivity.CommandLine.Run
import Selectivity.Proofs.Catalog.Structure
import Selectivity.Proofs.Estimation.Sources
import Selectivity.Proofs.Plan.Outlines
import Selectivity.Proofs.Session.Catalogs
import Selectivity.Proofs.Session.Questions

/-!
# What a run reports

A run of the command line puts its query to the catalogue as a session does, and prints the plan
that this gives or the line for its fault. Only a count can go wrong beyond that if the files are
there and have their structure: one in the catalogue is out of bounds or has too many digits to be
read, or one in an estimate has too many digits to be written.
-/

namespace Selectivity

theorem exists_outline_of_grew {start after : Store} {node : Node} (wellFormed : start.WellFormed)
    (sound : Store.Sound start after) (grew : Query.Grew start after node) :
    ∃ outline, (after.plan node).outline? = some outline := by
  refine Option.isSome_iff_exists.mp ((after.plan node).isSome_outline?.mpr ?_)
  intro shown member output known
  rw [Store.plan, Tree.preorder_map] at member
  obtain ⟨placed, within, rfl⟩ := List.mem_map.mp member
  obtain ⟨part, same, partGrew⟩ := grew.of_mem_preorder wellFormed sound node placed within
  obtain ⟨ref, said, rfl⟩ := Option.map_eq_some_iff.mp known
  rw [← same] at said
  have pending : start.output? part.ref = none := by
    cases part with
    | node placed inputs =>
        exact partGrew.unknown placed (Tree.mem_preorder_node.mpr (Or.inl rfl))
  exact sound.isWritable partGrew.stored pending said

namespace Session

theorem perform_loadCatalog_of_strict (session : Session) (strict : Bool)
    (format : CatalogFormat) (files : Files) (path : String) :
    { session with strict := strict }.perform (.loadCatalog format files path) =
      let step := session.perform (.loadCatalog format files path)
      ({ step.1 with strict := strict }, step.2) := by
  simp only [perform]
  cases Catalog.ofFile format files path <;> rfl

theorem perform_estimate_of_strict (session : Session) (strict : Bool) (ref : NodeRef)
    (verbose : Bool) :
    { session with strict := strict }.perform (.estimate ref verbose) =
      let step := session.perform (.estimate ref verbose)
      ({ step.1 with strict := strict }, step.2) := by
  simp only [perform]
  cases session.store.node? ref with
  | none => rfl
  | some node =>
      simp only [ifKnown, estimate]
      split <;> rfl

/-- A compilation that chooses for itself does not depend on the strictness of the session. -/
theorem perform_compile_of_strict (session : Session) (strict : Bool) (catalog : CatalogRef)
    (chosen verbose : Bool) (input : Query.Input) :
    { session with strict := strict }.perform (.compile ⟨catalog, some chosen, verbose⟩ input) =
      let step := session.perform (.compile ⟨catalog, some chosen, verbose⟩ input)
      ({ step.1 with strict := strict }, step.2) := by
  simp only [perform]
  cases session.store.catalog? catalog with
  | none => rfl
  | some known =>
      simp only [ifKnown, compile, Compiler.isStrict, Option.getD_some]
      cases (Query.compile known.lookup? chosen input.characters).outcome <;> rfl

theorem ask_of_strict (session : Session) (catalog : CatalogRef) {question : Question}
    (strict : Bool) {chosen : Bool} (choice : question.strict = some chosen) :
    ({ session with strict := strict }.ask catalog question).2 =
      (session.ask catalog question).2 := by
  simp only [ask, choice, perform_compile_of_strict, perform_estimate_of_strict]
  split <;> rfl

variable {session : Session} {ref : CatalogRef} {catalog : Catalog RelationRef}

/-- The operators of a newly made plan call all attributes by texts, if the catalogue does. -/
theorem namedAt_assemble (wellFormed : session.store.WellFormed)
    (known : session.store.catalog? ref = some catalog)
    (named : (session.store.catalogRelations catalog).Named) {strict : Bool} {text : List Char}
    {plan : Query.CanonicalPlan RelationRef}
    (accepted : (Query.compile catalog.lookup? strict text).outcome = .ok plan) :
    ∀ placed ∈ (plan.assemble Store.addNode session.store).2.preorder,
      placed.operator.hasRule = true ∧
        (plan.assemble Store.addNode session.store).1.NamedAt placed := by
  have bases := holds_of_compile wellFormed known accepted
  obtain ⟨script, -, resolves⟩ := Query.resolves_of_compile accepted
  obtain ⟨made, canonical⟩ := Query.assemble_made plan wellFormed bases
  intro placed member
  have covered := canonical.covered placed member
  refine ⟨covered.rule, ⟨fun output said => ?_, fun name base scans => ?_⟩⟩
  · rw [made.output?_eq_none member] at said
    cases said
  · obtain ⟨scan, among, rfl⟩ := covered.scan name base scans
    have entry : (scan.name, scan.base) ∈ catalog.entries :=
      Entries.get?_eq_some_mem (resolves.lookup_eq among)
    rw [Store.relation_eq_of_extends made.grown.extension wellFormed (bases scan among)]
    exact named _ (List.mem_map_of_mem entry)

/-- A query to a catalogue whose attributes are called by texts is refused, or is answered by a plan
that can be written as a document and has an outline, or has no estimate because an attribute is
missing or a count has too many digits to be written. -/
theorem ask_ends (wellFormed : session.store.WellFormed)
    (known : session.store.catalog? ref = some catalog)
    (named : (session.store.catalogRelations catalog).Named) (question : Question) :
    let answer := (session.ask ref question).2
    (∃ fault, answer.fault = some (.query fault)) ∨
      (∃ missing, answer.fault = some (.estimate (.missingAttribute missing))) ∨
      answer.fault = some (.estimate .unwritable) ∨
      answer.fault = none ∧ ∃ plan, answer.plan = some plan ∧
        plan.document? = some plan.document ∧ ∃ outline, plan.outline? = some outline := by
  cases outcome : (Query.compile catalog.lookup? (question.strict.getD session.strict)
      question.input.characters).outcome with
  | error fault =>
      rw [ask_refused known outcome]
      exact Or.inl ⟨fault, rfl⟩
  | ok plan =>
      have bases := holds_of_compile wellFormed known outcome
      have made := (Query.assemble_made plan wellFormed bases).1
      have labelled := namedAt_assemble wellFormed known named outcome
      have settled := made.grown.wellFormed
      rw [ask_accepted wellFormed known outcome]
      cases failed : ((plan.assemble Store.addNode session.store).1.estimateNode
          (plan.assemble Store.addNode session.store).2).fault with
      | some fault =>
          have causes := Store.estimateNode_fault_of_named settled made.new.stored
            made.root_unknown (fun placed member => (labelled placed member).1)
            (fun placed member => (labelled placed member).2) failed
          rcases causes with ⟨missing, rfl⟩ | rfl
          · exact Or.inr (Or.inl ⟨missing, rfl⟩)
          · exact Or.inr (Or.inr (Or.inl rfl))
      | none =>
          have runs := (Store.Sound.refl settled).estimateNode settled _ made.new.stored
            made.root_unknown
          refine Or.inr (Or.inr (Or.inr ⟨rfl, _, rfl, ?_, ?_⟩))
          · exact Store.document?_plan (runs.sound.outputs_named settled _ made.new.stored
              fun placed member => (labelled placed member).2)
          · refine exists_outline_of_grew settled runs.sound ⟨made.new.stored, ?_, ?_⟩
            · exact fun placed member => made.output?_eq_none member
            · exact runs.known failed _ (Store.mem_parts_self made.root_unknown)

end Session

namespace CommandLine

/-- The question that a run puts to its catalogue. -/
def Settings.question (settings : Settings) (input : Query.Input) : Question :=
  ⟨some settings.strict, settings.verbose, settings.verbose, input⟩

/-- How a run ends that has got an answer to its question. -/
inductive Reports (settings : Settings) (answer : Answer) : Except Breakdown Completion → Prop where
  /-- The plan is printed. -/
  | estimated {plan : Plan} {document : Json} {outline : String} (told : answer.fault = none)
      (planned : answer.plan = some plan) (written : plan.document? = some document)
      (inspected : plan.outline? = some outline) :
      Reports settings answer
        (.ok ⟨0, (if settings.json then document.render ⟨some 2, true⟩ else outline) ++ "\n",
          answer.log.map .logged, answer.warnings⟩)
  /-- Nothing is printed, and the last line of the error output is for the fault. -/
  | refused {fault : Fault} {kind message : String} (told : answer.fault = some fault)
      (called : faultKind? fault = some kind) (explained : fault.message? = some message) :
      Reports settings answer
        (.ok ⟨1, "", answer.log.map .logged ++ [.plain (kind ++ ": " ++ message ++ "\n")],
          answer.warnings⟩)
  /-- The run breaks off, because a count has too many digits to be written. -/
  | unwritable (told : answer.fault = some (.estimate .unwritable)) :
      Reports settings answer (.error ⟨.estimate .unwritable, answer.warnings⟩)

variable {surroundings : Surroundings} {session : Session} {settings : Settings}
  {ref : CatalogRef} {input : Query.Input}

theorem answer_eq (settings : Settings) (session : Session) (ref : CatalogRef)
    (input : Query.Input) :
    answer settings session ref input =
      let told := (session.ask ref (settings.question input)).2
      match told.fault, told.plan with
      | some fault, _ => Completion.ofFault fault told.log told.warnings
      | none, some plan =>
          match printed? settings.json plan with
          | none => .error ⟨.estimate .unwritable, told.warnings⟩
          | some text => .ok ⟨0, text, told.log.map .logged, told.warnings⟩
      | none, none => .error ⟨.unknownReference, told.warnings⟩ := by
  rw [answer, Session.ask]
  simp only [Settings.question]
  generalize session.perform (.compile ⟨ref, some settings.strict, settings.verbose⟩ input) =
    compiled
  obtain ⟨session, result, warnings, log⟩ := compiled
  cases result with
  | error fault => rfl
  | ok outcome =>
      cases outcome with
      | node root =>
          simp only [finish]
          generalize session.perform (.estimate root settings.verbose) = estimated
          obtain ⟨session, result, others, progress⟩ := estimated
          cases result with
          | error fault => rfl
          | ok outcome =>
              simp only [Report.fault?]
              cases session.store.node? root <;> rfl
      | _ => rfl

theorem exists_faultKind_query (fault : QueryFault) :
    ∃ kind, faultKind? (.query fault) = some kind := by
  cases fault <;> exact ⟨_, rfl⟩

theorem Reports.ofFault {answer : Answer} {fault : Fault} {kind message : String}
    (told : answer.fault = some fault) (called : faultKind? fault = some kind)
    (explained : fault.message? = some message) :
    Reports settings answer (Completion.ofFault fault answer.log answer.warnings) := by
  simp only [Completion.ofFault, called, explained, Option.getD_some]
  exact .refused told called explained

/-- A run ends as the answer to its question says, if all attributes in the catalogue are called by
texts. -/
theorem answer_reports {catalog : Catalog RelationRef} (wellFormed : session.store.WellFormed)
    (known : session.store.catalog? ref = some catalog)
    (named : (session.store.catalogRelations catalog).Named) (settings : Settings)
    (input : Query.Input) :
    Reports settings (session.ask ref (settings.question input)).2
      (answer settings session ref input) := by
  rw [answer_eq]
  rcases Session.ask_ends wellFormed known named (settings.question input) with
    ⟨fault, told⟩ | ⟨missing, told⟩ | told | ⟨told, plan, planned, written, outline, inspected⟩
  · obtain ⟨kind, called⟩ := exists_faultKind_query fault
    simp only [told]
    exact .ofFault told called rfl
  · simp only [told]
    exact .ofFault told rfl rfl
  · simp only [told]
    exact .unwritable told
  · have printed : printed? settings.json plan =
        some ((if settings.json then plan.document.render ⟨some 2, true⟩ else outline) ++ "\n") := by
      rw [printed?, inspected]
      split <;> rfl
    simp only [told, planned, printed]
    exact .estimated told planned written inspected

theorem execute_of_strict (surroundings : Surroundings) (session : Session)
    (settings : Settings) (strict : Bool) :
    execute surroundings { session with strict := strict } settings =
      execute surroundings session settings := by
  have answers (loaded : Session) (ref : CatalogRef) (input : Query.Input) :
      answer settings { loaded with strict := strict } ref input =
        answer settings loaded ref input := by
    rw [answer_eq, answer_eq, Session.ask_of_strict loaded ref strict rfl]
  rw [execute, execute]
  cases settings.catalog with
  | none => rfl
  | some path => simp only [executeAt, Session.perform_loadCatalog_of_strict, answers]

theorem executeAt_of_refused {path : String} {fault : CatalogFault}
    (refused : Catalog.ofFile .bySuffix surroundings.files path = .error fault) :
    executeAt path surroundings session settings = .error ⟨.catalog fault, []⟩ := by
  rw [executeAt, Session.perform, refused]
  rfl

theorem executeAt_of_loaded {path : String}
    (loaded : (session.perform (.loadCatalog .bySuffix surroundings.files path)).2 =
      .success (.catalog ref))
    (asked : queryInput surroundings settings.query = .ok input) :
    executeAt path surroundings session settings =
      answer settings (session.perform (.loadCatalog .bySuffix surroundings.files path)).1 ref
        input := by
  rw [executeAt]
  simp only [loaded, Report.success, Report.ofResult, asked]

/-- A run with a catalogue file of the documented structure does not depend on the strictness of its
session. It breaks off if a count in the file is out of bounds or has too many digits, before
anything is asked. Otherwise it reports what the session answers that has loaded the catalogue: a
plan is printed, a fault has its line, and the only fault that breaks it off is a count that has too
many digits to be written. -/
theorem run_reports {words : List String} {path : String} (reachable : session.Reachable)
    (understood : Settings.ofWords words = .ok settings) (named : settings.catalog = some path)
    (documented : Catalog.Documented surroundings.files path)
    (asked : queryInput surroundings settings.query = .ok input) :
    (∀ strict, run surroundings { session with strict := strict } words =
        run surroundings session words) ∧
      ((∃ fault, Catalog.ofFile .bySuffix surroundings.files path = .error fault ∧
          fault.BadCount ∧ run surroundings session words = .error ⟨.catalog fault, []⟩) ∨
        ∃ statistics ref catalog,
          let step := session.perform (.loadCatalog .bySuffix surroundings.files path)
          Catalog.ofFile .bySuffix surroundings.files path = .ok statistics ∧
            step.2 = .success (.catalog ref) ∧
            step.1.store.catalog? ref = some catalog ∧
            step.1.store.catalogRelations catalog = statistics ∧
            Reports settings (step.1.ask ref (settings.question input)).2
              (run surroundings session words)) := by
  have runs (session : Session) :
      run surroundings session words = executeAt path surroundings session settings := by
    simp only [run, understood, execute, named]
  refine ⟨fun strict => ?_, ?_⟩
  · simp only [run, execute_of_strict]
  · rw [runs]
    rcases (Catalog.ofFile_of_documented documented).cases with
      ⟨statistics, read, texts⟩ | ⟨fault, told, bad⟩
    · obtain ⟨ref, catalog, loaded, known, same⟩ :=
        Session.loadCatalog_of_read reachable.store_wellFormed read
      refine Or.inr ⟨statistics, ref, catalog, read, loaded, known, same, ?_⟩
      rw [executeAt_of_loaded loaded asked]
      refine answer_reports (reachable.perform _).store_wellFormed known ?_ settings input
      rw [same]
      exact texts
    · exact Or.inl ⟨fault, told, bad, executeAt_of_refused told⟩

/-- Two relations, one of which has no attributes. -/
def smallCatalog : Json :=
  .object [("R", .object [("tuple_count", .integer 100),
      ("attributes", .array [.object [("name", .string "a"), ("value_count", .integer 10)]])]),
    ("S", .object [("tuple_count", .integer 50)])]

theorem isCatalog_smallCatalog : smallCatalog.IsCatalog := by
  refine ⟨_, rfl, List.forall_mem_cons.mpr ⟨?_, List.forall_mem_singleton.mpr ?_⟩⟩
  · refine ⟨_, 100, rfl, rfl, Or.inr ⟨_, rfl, List.forall_mem_singleton.mpr ?_⟩⟩
    exact ⟨_, "a", 10, rfl, rfl, rfl⟩
  · exact ⟨_, 50, rfl, rfl, Or.inl rfl⟩

theorem exact_smallCatalog {limit : Option Nat}
    (roomy : ∀ count ≤ 100, Text.exceeds limit (Text.digits count) = false) :
    smallCatalog.Exact limit := by
  have counted (count : Int) (few : count.natAbs ≤ 100) : Json.Exact limit (.integer count) :=
    .integer (roomy _ few)
  refine .object (by decide) (List.forall_mem_cons.mpr ⟨?_, List.forall_mem_singleton.mpr ?_⟩)
  · refine .object (by decide) (List.forall_mem_cons.mpr
      ⟨counted 100 (by decide), List.forall_mem_singleton.mpr (.array ?_)⟩)
    refine List.forall_mem_singleton.mpr (.object (by decide) ?_)
    exact List.forall_mem_cons.mpr
      ⟨.string "a", List.forall_mem_singleton.mpr (counted 10 (by decide))⟩
  · exact .object (by decide) (List.forall_mem_singleton.mpr (counted 50 (by decide)))

/-- The small catalogue beside a query that names a relation which the catalogue does not have. -/
def smallRun : Surroundings where
  files := fun _ => .ok (smallCatalog.render ⟨some 2, true⟩)
  standardInput := "SELECT a\r\nFROM R,X,S\r\nWHERE a=\"5\"\r\n"

theorem smallRun_reports :
    Settings.ofWords ["--cat=stats.json", "-"] =
        .ok ⟨some "stats.json", false, false, false, "-"⟩ ∧
      Catalog.Documented smallRun.files "stats.json" ∧
      queryInput smallRun "-" = .ok (.stream smallRun.standardInput) ∧
      run smallRun (Session.initial.perform (.setStrict true)).1 ["--cat=stats.json", "-"] =
        .ok ⟨0, "π (a) :: [a:1] (500 tuples)\n  <- σ (a=\"5\") :: [a:1] (500 tuples)\n" ++
          "    <- ⨯ :: [a:10] (5000 tuples)\n      <- R :: [a:10] (100 tuples)\n" ++
          "      <- S :: [] (50 tuples)\n", [], ["X"]⟩ ∧
      ∃ ref, Reports ⟨some "stats.json", false, false, false, "-"⟩
        ((Session.initial.perform (.loadCatalog .bySuffix smallRun.files "stats.json")).1.ask ref
          ⟨some false, false, false, .stream smallRun.standardInput⟩).2
        (run smallRun .initial ["--cat=stats.json", "-"]) := by
  have understood : Settings.ofWords ["--cat=stats.json", "-"] =
      .ok ⟨some "stats.json", false, false, false, "-"⟩ := rfl
  have suffix : pathFormat "stats.json" = ".json" := rfl
  have documented : Catalog.Documented smallRun.files "stats.json" :=
    .document suffix rfl (by decide +kernel) ((exact_smallCatalog fun _ _ => rfl).writesFile _).read
      isCatalog_smallCatalog
  have asked : queryInput smallRun "-" = .ok (.stream smallRun.standardInput) := rfl
  have loaded : Catalog.ofFile .bySuffix smallRun.files "stats.json" =
      Catalog.ofDocument smallCatalog := by
    have short : ∀ count ≤ 100, Text.exceeds (some Text.digitLimit) (Text.digits count) = false := by
      intro count few
      refine Text.exceeds_digits_of_lt (by decide) (Nat.lt_of_le_of_lt few ?_)
      exact Nat.lt_of_lt_of_le (show 100 < 10 ^ 3 by decide)
        (Nat.pow_le_pow_right (by decide) (by decide))
    exact Catalog.ofFileWithin_of_writes suffix rfl ((exact_smallCatalog short).writesFile _)
  have ran : run smallRun .initial ["--cat=stats.json", "-"] =
      .ok ⟨0, "π (a) :: [a:1] (500 tuples)\n  <- σ (a=\"5\") :: [a:1] (500 tuples)\n" ++
        "    <- ⨯ :: [a:10] (5000 tuples)\n      <- R :: [a:10] (100 tuples)\n" ++
        "      <- S :: [] (50 tuples)\n", [], ["X"]⟩ := by
    have step : Session.initial.perform (.loadCatalog .bySuffix smallRun.files "stats.json") =
        Session.initial.keepStatistics (Catalog.ofDocument smallCatalog) := by
      rw [Session.perform, loaded]
    have success : (Session.initial.perform
        (.loadCatalog .bySuffix smallRun.files "stats.json")).2 = .success (.catalog ⟨0⟩) := by
      rw [step]
      rfl
    have query : queryInput smallRun
        (Settings.query ⟨some "stats.json", false, false, false, "-"⟩) =
          .ok (.stream smallRun.standardInput) := asked
    rw [run, understood]
    refine (executeAt_of_loaded success query).trans ?_
    rw [step]
    decide +kernel
  obtain ⟨same, ⟨_, -, -, brokenOff⟩ | ⟨-, ref, -, -, -, -, -, reports⟩⟩ :=
    run_reports (Session.reachable_run []) understood rfl documented asked
  · cases brokenOff.symm.trans ran
  · exact ⟨understood, documented, asked, (same true).trans ran, ref, reports⟩

/-- A catalogue in which a relation has fewer than no tuples, beside a query that reads it. -/
def negativeRun : Surroundings where
  files := fun path =>
    if path = "stats.csv" then .ok "relation,tuple_count,attribute,value_count\nR,-1,a,10\n"
    else .ok "SELECT *\nFROM R\n"
  standardInput := ""

/-- A refused statistic has a line of its own, but breaks off a run whose catalogue holds it. -/
theorem negativeRun_breaks_off :
    Settings.ofWords ["--catalog", "stats.csv", "q.txt"] =
        .ok ⟨some "stats.csv", false, false, false, "q.txt"⟩ ∧
      Catalog.Documented negativeRun.files "stats.csv" ∧
      queryInput negativeRun "q.txt" = .ok (.stream "SELECT *\nFROM R\n") ∧
      faultKind? (.statistic (.negativeTupleCount (-1))) = some "InvalidStatistic" ∧
      run negativeRun .initial ["--catalog", "stats.csv", "q.txt"] =
        .error ⟨.catalog (.statistic (.negativeTupleCount (-1))), []⟩ := by
  refine ⟨rfl, ?_, rfl, rfl, by decide +kernel⟩
  have stored : negativeRun.files (String.ofList (Text.normalPath "stats.csv".toList)) =
      .ok "relation,tuple_count,attribute,value_count\nR,-1,a,10\n" := rfl
  have table : Csv.frame (fun name => name == "relation" || name == "attribute")
      "relation,tuple_count,attribute,value_count\nR,-1,a,10\n".toList =
        .ok ⟨[("relation", [.text "R"]), ("tuple_count", [.integer (-1)]),
          ("attribute", [.text "a"]), ("value_count", [.integer 10])], 1⟩ := by decide +kernel
  refine .rows rfl stored table rfl (List.forall_mem_singleton.mpr ?_)
  exact ⟨⟨_, rfl, .read rfl⟩, _, rfl, Or.inr ⟨_, rfl, .read rfl⟩⟩

end CommandLine

end Selectivity
