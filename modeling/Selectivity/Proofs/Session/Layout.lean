import Selectivity.Proofs.Query.Layout
import Selectivity.Proofs.Session.Strictness

/-!
# The layout of a query in a session

Line ends, blank lines, and whether a query comes as a text or as a stream have no influence on what
a compiler makes of it. Further lines that are skipped change the log only.
-/

namespace Selectivity

/-- A text comes as it is, or as a stream if every carriage return belongs to a line feed. -/
inductive Query.Comes (content : String) : Query.Input → Prop where
  | text : Comes content (.text content)
  | stream (closed : Text.ReturnsClosed content.toList) : Comes content (.stream content)

theorem Query.Comes.lines_eq {content : String} {input : Query.Input}
    (comes : Query.Comes content input) :
    Text.lines input.characters = Text.lines content.toList := by
  cases comes with
  | text => rfl
  | stream closed => exact (Text.level_unifyLineEnds content.toList closed).lines_eq

def LogEntry.isSkip : LogEntry → Bool
  | .skippedLine _ _ => true
  | _ => false

/-- The lines of the log for anything but skipped lines. -/
def LogEntry.remarks (log : List LogEntry) : List LogEntry :=
  log.filter fun entry => !entry.isSkip

theorem LogEntry.remarks_told (notices : List Query.Notice) :
    remarks (notices.filterMap Query.Notice.logEntry?) =
      (Query.remarks notices).filterMap Query.Notice.logEntry? := by
  induction notices with
  | nil => rfl
  | cons notice rest induction =>
      cases notice with
      | repeatedSource name => exact congrArg (LogEntry.repeatedSource name :: ·) induction
      | skippedLine line expected => exact induction
      | unknownRelation name => exact induction

theorem Query.warnings_remarks (notices : List Query.Notice) :
    Query.warnings (Query.remarks notices) = Query.warnings notices := by
  induction notices with
  | nil => rfl
  | cons notice rest induction =>
      cases notice with
      | repeatedSource name => exact induction
      | skippedLine line expected => exact induction
      | unknownRelation name => exact congrArg (name :: ·) induction

namespace Session

variable {session : Session} {compiler : Compiler}

theorem perform_compile_of_lines {input other : Query.Input}
    (same : Text.lines input.characters = Text.lines other.characters) :
    session.perform (.compile compiler input) = session.perform (.compile compiler other) := by
  simp only [perform, compile, Query.compile_of_lines same]

/-- The compiler makes the same of two queries, warns of the same relations, and its logs differ in
skipped lines only. -/
structure SameButLog (one other : Session × Report) : Prop where
  session : one.1 = other.1
  result : one.2.result = other.2.result
  warnings : one.2.warnings = other.2.warnings
  log : LogEntry.remarks one.2.log = LogEntry.remarks other.2.log

theorem log_compile (catalog : Catalog RelationRef) (strict verbose : Bool) (input : Query.Input) :
    (session.compile catalog strict verbose input).2.log =
      if verbose then
        (Query.compile catalog.lookup? strict input.characters).notices.filterMap
          Query.Notice.logEntry?
      else [] := by
  unfold compile
  dsimp only
  split <;> rfl

theorem compile_same_but_log (catalog : Catalog RelationRef) (strict verbose : Bool)
    {input other : Query.Input}
    (same : Query.SameButSkips (Query.compile catalog.lookup? strict input.characters).run
      (Query.compile catalog.lookup? strict other.characters).run) :
    SameButLog (session.compile catalog strict verbose input)
      (session.compile catalog strict verbose other) := by
  have outcome : (Query.compile catalog.lookup? strict input.characters).outcome =
      (Query.compile catalog.lookup? strict other.characters).outcome := same.result
  have remarks : Query.remarks (Query.compile catalog.lookup? strict input.characters).notices =
      Query.remarks (Query.compile catalog.lookup? strict other.characters).notices := same.remarks
  have ends : (session.compile catalog strict verbose input).1 =
        (session.compile catalog strict verbose other).1 ∧
      (session.compile catalog strict verbose input).2.result =
        (session.compile catalog strict verbose other).2.result := by
    unfold compile
    dsimp only
    rw [outcome]
    split <;> exact ⟨rfl, rfl⟩
  refine ⟨ends.1, ends.2, ?_, ?_⟩
  · rw [warnings_compile, warnings_compile, ← Query.warnings_remarks, remarks,
      Query.warnings_remarks]
  · rw [log_compile, log_compile]
    cases verbose with
    | false => rfl
    | true =>
        simp only [if_true]
        rw [LogEntry.remarks_told, LogEntry.remarks_told, remarks]

theorem perform_compile_padded {content edited : String}
    (padded : Query.Padded content.toList edited.toList) :
    SameButLog (session.perform (.compile compiler (.text edited)))
      (session.perform (.compile compiler (.text content))) := by
  simp only [perform]
  cases session.store.catalog? compiler.catalog with
  | none => exact ⟨rfl, rfl, rfl, rfl⟩
  | some catalog =>
      exact compile_same_but_log catalog _ _
        (Query.compile_padded padded catalog.lookup? (compiler.isStrict session)).symm

variable (session compiler) in
/-- A query in which every carriage return belongs to a line feed is compiled in the same way as a
text and as a stream, with a carriage return before every line feed, and with blank lines put in or
taken out. Further lines between the second one that is not blank and the last one that do not start
like a JOIN clause change nothing but the log. -/
theorem layout_has_no_meaning {content : String} (closed : Text.ReturnsClosed content.toList) :
    let told (input : Query.Input) := session.perform (.compile compiler input)
    told (.stream content) = told (.text content) ∧
    (∀ edited : String, edited.toList = Text.addReturns content.toList →
      told (.text edited) = told (.text content) ∧ told (.stream edited) = told (.text content)) ∧
    (∀ (edited : String) (input : Query.Input), Text.Spaced content.toList edited.toList →
      Query.Comes edited input → told input = told (.text content)) ∧
    ∀ (edited : String) (input : Query.Input), Query.Padded content.toList edited.toList →
      Query.Comes edited input → SameButLog (told input) (told (.text content)) := by
  intro told
  have comes : ∀ {content : String} {input : Query.Input}, Query.Comes content input →
      told input = told (.text content) := fun comes => perform_compile_of_lines comes.lines_eq
  refine ⟨comes (.stream closed), ?_, ?_, ?_⟩
  · intro edited characters
    have kept : Text.ReturnsClosed edited.toList := by
      rw [characters]
      exact closed.addReturns
    have same : told (.text edited) = told (.text content) := by
      apply perform_compile_of_lines
      change Text.lines edited.toList = Text.lines content.toList
      rw [characters]
      exact (Text.level_addReturns content.toList).lines_eq.symm
    exact ⟨same, (comes (.stream kept)).trans same⟩
  · intro edited input spaced there
    rw [comes there]
    exact perform_compile_of_lines spaced.lines_eq.symm
  · intro edited input padded there
    rw [comes there]
    exact perform_compile_padded padded

/-- A query whose second line ends in a carriage return and a line feed. -/
def pairedQuery : String :=
  "SELECT *\nFROM R, X\r\nJOIN S ON a=a"

/-- The query with a blank line in front, and the query with a line that says nothing. -/
def spacedQuery : String :=
  " \t\nSELECT *\nFROM R, X\r\nJOIN S ON a=a"

def paddedQuery : String :=
  "SELECT *\nFROM R, X\r\nnothing\nJOIN S ON a=a"

theorem pairedQuery_told :
    let told (input : Query.Input) := twoNames.perform (.compile ⟨⟨0⟩, none, true⟩ input)
    told (.stream pairedQuery) = told (.text pairedQuery) ∧
      told (.text spacedQuery) = told (.text pairedQuery) ∧
      SameButLog (told (.stream paddedQuery)) (told (.text pairedQuery)) ∧
      (told (.text pairedQuery)).2.warnings = ["X"] ∧
      (told (.text paddedQuery)).2.log = [.skippedLine "nothing" .join] := by
  intro told
  have closed : Text.ReturnsClosed pairedQuery.toList := by decide +kernel
  have closedThere : Text.ReturnsClosed paddedQuery.toList := by decide +kernel
  have spaced : Text.Spaced pairedQuery.toList spacedQuery.toList :=
    .insert [] [" \t".toList] _ (by decide +kernel) rfl (by decide +kernel)
  have padded : Query.Padded pairedQuery.toList paddedQuery.toList :=
    .insert ["SELECT *".toList, "FROM R, X\r".toList] ["nothing".toList] ["JOIN S ON a=a".toList]
      (by decide +kernel) (by decide +kernel) (by decide +kernel)
  obtain ⟨stream, -, blank, more⟩ :=
    layout_has_no_meaning twoNames ⟨⟨0⟩, none, true⟩ closed
  exact ⟨stream, blank _ _ spaced .text, more _ _ padded (.stream closedThere), by decide +kernel,
    by decide +kernel⟩

end Session

end Selectivity
