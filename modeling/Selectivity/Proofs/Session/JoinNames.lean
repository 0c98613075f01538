import Selectivity.Proofs.Query.JoinNames
import Selectivity.Proofs.Session.Faults
import Selectivity.Proofs.Session.JoinLines

/-!
# Names in the JOIN lines of a session

A session refuses a JOIN line that its compiler gets to exactly if the line cannot be read as a
join. If a query is accepted, its plan joins the relations that its JOIN lines are read with. These
are the ones that the lines name, unless a line lacks an ON behind the name and the name has one in
it.
-/

namespace Selectivity.Session

variable {session : Session} {compiler : Compiler} {catalog : Catalog RelationRef}

variable (input : Query.Input) in
/-- A compiler that gets to a JOIN line refuses it as such exactly if the line cannot be read as a
join. If it can, the query is refused for a relation that is known by then, and otherwise for a
condition that is no comparison. An accepted query joins the relations that its JOIN lines are read
with, as far as the catalogue has them. A line whose name is set off by an ON is read with the whole
name. -/
theorem joins_are_read_by_name (reachable : session.Reachable)
    (known : session.store.catalog? compiler.catalog = some catalog) :
    let text := input.characters
    let result := (session.perform (.compile compiler input)).2.result
    (∀ line names, Query.Reaches catalog.lookup? (compiler.isStrict session) text line names →
      (result = .error (.query (.joinExpected (String.ofList line))) ↔
        ¬ ∃ relation rest, Query.JoinRead line relation rest) ∧
      ∀ relation rest, Query.JoinRead line relation rest →
        (String.ofList relation ∈ names →
          result = .error (.query (.repeatedRelation (String.ofList relation)))) ∧
        (String.ofList relation ∉ names → (Text.items rest).mapM Query.comparison? = none →
          ∃ item ∈ Text.items rest,
            result = .error (.query (.joinPredicate (String.ofList item))))) ∧
    (∀ outcome, result = .ok outcome →
      ∃ root plan selectLine fromLine rest joins, outcome = .node root.ref ∧
        Query.Canonical root plan ∧ Text.lines text = selectLine :: fromLine :: rest ∧
        List.Forall₂ Query.JoinLineRead (rest.filter (Query.startsWith "JOIN")) joins ∧
        plan.joins = joins.filterMap (Query.joinGroup? catalog.lookup?)) ∧
    ∀ line name behind rest, Query.NamedJoin line name behind → Query.SeparateOn behind rest →
      ∀ relation other, Query.JoinRead line relation other ↔ relation = name ∧ other = rest := by
  intro text result
  have refused : ∀ fault, result = .error (.query fault) ↔
      (Query.compile catalog.lookup? (compiler.isStrict session) text).outcome = .error fault :=
    perform_compile_error_iff known
  refine ⟨fun line names reaches => ⟨?_, fun relation rest read => ⟨?_, ?_⟩⟩, ?_, ?_⟩
  · exact (refused _).trans reaches.joinExpected_iff
  · exact fun member => (refused _).mpr (reaches.repeated read member)
  · intro new broken
    obtain ⟨item, member, failed⟩ := reaches.joinPredicate read new broken
    exact ⟨item, member, (refused _).mpr failed⟩
  · intro outcome accepted
    obtain ⟨found, root, plan, there, same, -, canonical, spoken, -⟩ :=
      exists_canonical reachable.store_wellFormed accepted
    cases known.symm.trans there
    cases spoken with
    | lines selectLine fromLine rest names joins order _ _ _ joinLines groups =>
        refine ⟨root, plan, selectLine, fromLine, rest, joins, same, canonical, order,
          Query.forall₂_joinLineRead (fun line member => ?_) joinLines, groups⟩
        refine Text.lineFeed_not_mem_of_mem_lines (?_ : line ∈ Text.lines text)
        rw [order]
        exact .tail _ (.tail _ (List.mem_filter.mp member).1)
  · exact fun line name behind rest named on relation other =>
      Query.joinRead_iff_of_separate named on

private theorem selectLine_all : Query.SelectLine "SELECT *".toList none := by
  have follows : Query.afterKeyword? "SELECT" "SELECT *".toList = some ['*'] := rfl
  exact .all follows (by decide)

private theorem fromLine_R : Query.FromLine "FROM R".toList ["R"] := by
  have follows : Query.afterKeyword? "FROM" "FROM R".toList = some ['R'] := rfl
  have items : Text.items ['R'] = [['R']] := (Text.items_eq _).trans (by decide)
  have words := Query.FromLine.names follows (by rw [items]; decide)
  rwa [items] at words

private theorem threeNames_found :
    ∃ catalog, threeNames.store.catalog? ⟨0⟩ = some catalog ∧
      ∀ name ∈ ["T", "S", "R"], ∃ base, catalog.lookup? name = some base := by
  have each : (threeNames.store.catalog? ⟨0⟩).any (fun catalog =>
      ["T", "S", "R"].all fun name => (catalog.lookup? name).isSome) = true := rfl
  obtain ⟨catalog, known, found⟩ := (Option.any_eq_true _ _).mp each
  exact ⟨catalog, known, fun name member =>
    Option.isSome_iff_exists.mp (List.all_eq_true.mp found name member)⟩

/-- A query with a line that sets its name off, one that does not, and a third without an ON. -/
def threeJoins : Query.Input :=
  .text "SELECT *\nFROM R\nJOIN S ON a=b\nJOIN TON a=c\nJOIN U"

theorem threeJoins_refused :
    threeNames.Reachable ∧
      (threeNames.perform (.compile ⟨⟨0⟩, some true, false⟩ threeJoins)).2.result =
        .error (.query (.joinExpected "JOIN U")) := by
  have reachable : threeNames.Reachable := reachable_run _
  obtain ⟨catalog, known, found⟩ := threeNames_found
  have order : Text.lines threeJoins.characters = "SELECT *".toList :: "FROM R".toList ::
      ["JOIN S ON a=b".toList, "JOIN TON a=c".toList, "JOIN U".toList] := rfl
  have passes : Query.Passes ["R"] ["JOIN S ON a=b".toList, "JOIN TON a=c".toList]
      ["T", "S", "R"] := by
    have first : Query.joinLine? "JOIN S ON a=b".toList = some ("S", [⟨"a", "b"⟩]) := by
      simp only [Query.joinLine?, Text.items_eq]
      rfl
    have second : Query.joinLine? "JOIN TON a=c".toList = some ("T", [⟨"a", "c"⟩]) := by
      simp only [Query.joinLine?, Text.items_eq]
      rfl
    exact .join first (by decide) (.join second (by decide) (.none _))
  have reaches : Query.Reaches catalog.lookup? true threeJoins.characters "JOIN U".toList
      ["T", "S", "R"] :=
    .line order selectLine_all fromLine_R passes (by decide)
      ⟨"R", List.mem_cons_self, found "R" (by decide)⟩ fun _ => found
  have unread : ¬ ∃ relation rest, Query.JoinRead "JOIN U".toList relation rest := by
    rintro ⟨relation, rest, read⟩
    have parts := (Query.joinParts?_eq_some_iff (by decide)).mpr ⟨rest, read, rfl⟩
    have none : Query.joinParts? "JOIN U".toList = none := rfl
    rw [none] at parts
    cases parts
  obtain ⟨lines, -⟩ :=
    @joins_are_read_by_name threeNames ⟨⟨0⟩, some true, false⟩ catalog threeJoins reachable known
  exact ⟨reachable, (lines _ _ reaches).1.mpr unread⟩

/-- A query whose JOIN line has no ON behind the name, and a name that ends in one. -/
def longName : Query.Input :=
  .text "SELECT *\nFROM R\nJOIN SON a=b\n"

/-- The line is not refused, and another relation is joined than the one that it names. -/
theorem longName_is_cut :
    let line := "JOIN SON a=b".toList
    let after := (threeNames.perform (.compile ⟨⟨0⟩, none, false⟩ longName)).1
    let report := (threeNames.perform (.compile ⟨⟨0⟩, none, false⟩ longName)).2
    (∃ catalog, threeNames.store.catalog? ⟨0⟩ = some catalog ∧
      Query.Reaches catalog.lookup? false longName.characters line ["R"]) ∧
    (¬ ∃ name behind rest, Query.NamedJoin line name behind ∧ Query.SeparateOn behind rest) ∧
    report.result.toOption = some (.node ⟨2⟩) ∧
    (after.store.node? ⟨2⟩).map (fun root => (after.store.plan root).relations) =
      some ["R", "S"] := by
  intro line after report
  have order : Text.lines longName.characters =
      "SELECT *".toList :: "FROM R".toList :: ([] ++ [line]) := rfl
  have body : Query.readBody ["R"] ([] ++ [line]) = ([.join "S" [⟨"a", "b"⟩]], .ok []) := by
    simp only [List.nil_append, Query.readBody, Query.readJoin, Text.items_eq]
    rfl
  have script := Query.Script.ofText_of_lines order selectLine_all fromLine_R
  rw [body] at script
  refine ⟨?_, ?_, ?_, ?_⟩
  · obtain ⟨catalog, known, found⟩ := threeNames_found
    exact ⟨catalog, known, .line order selectLine_all fromLine_R (.none _) (by decide)
      ⟨"R", List.mem_cons_self, found "R" (by decide)⟩ fun strict =>
        absurd strict Bool.false_ne_true⟩
  · rintro ⟨name, behind, rest, named, on⟩
    have parts := named.joinParts?_eq_name on.onBehind
    have cut : Query.joinParts? line = some (['S'], "a=b".toList) := rfl
    have text : Query.afterKeyword? "JOIN" line = some "SON a=b".toList := rfl
    obtain ⟨rfl, -⟩ := Prod.mk.inj (Option.some.inj (cut.symm.trans parts))
    -- The name would have to end in front of the word character O.
    have split := Option.some.inj (text.symm.trans named.follows)
    have shared : ['S'] ++ "ON a=b".toList = ['S'] ++ behind := split
    obtain rfl := List.append_cancel_left shared
    exact absurd (named.word.2 'O' rfl) (by decide)
  · simp only [report, perform, compile, Query.compile, script]
    rfl
  · simp only [after, perform, compile, Query.compile, script]
    rfl

end Selectivity.Session
