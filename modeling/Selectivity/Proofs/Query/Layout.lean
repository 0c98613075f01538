import Selectivity.Proofs.Query.Faults
import Selectivity.Proofs.Text.Lines

/-!
# Lines that say nothing

A line between the FROM line and the last one that does not start like a JOIN clause is skipped. It
leaves a notice and has no other effect: the clauses that are read, the fault that may end the
reading, and what is looked up in the catalogue stay as they are.
-/

namespace Selectivity.Query

open Text

variable {Base : Type}

/-- Lines that do not start like a JOIN clause are put in somewhere behind the second line that is
not blank and before the last one, or taken out. -/
def Padded : List Char → List Char → Prop :=
  Text.Edited fun before added after =>
    2 ≤ before.countP isSolid ∧ (∃ line ∈ after, isSolid line = true) ∧
      ∀ line ∈ added, startsWith "JOIN" line = false

def Notice.isSkip : Notice → Bool
  | .skippedLine _ _ => true
  | _ => false

/-- The notices of anything but skipped lines. -/
def remarks (notices : List Notice) : List Notice :=
  notices.filter fun notice => !notice.isSkip

theorem remarks_append (first second : List Notice) :
    remarks (first ++ second) = remarks first ++ remarks second :=
  List.filter_append _ _

/-- Two runs end in the same way and tell the same but for skipped lines. -/
structure SameButSkips {Value : Type} (one other : List Notice × Value) : Prop where
  remarks : remarks one.1 = remarks other.1
  result : one.2 = other.2

/-- Two readings of a body find the same joins and end in the same way. -/
structure SameClauses (one other : List BodyLine × Except QueryFault (List Predicate)) : Prop where
  joins : one.1.filterMap BodyLine.join? = other.1.filterMap BodyLine.join?
  ending : one.2 = other.2

theorem readBody_added {mentioned : List String} {added back : List (List Char)}
    (noJoins : ∀ line ∈ added, startsWith "JOIN" line = false) (more : back ≠ []) :
    SameClauses (readBody mentioned (added ++ back)) (readBody mentioned back) := by
  induction added with
  | nil => exact ⟨rfl, rfl⟩
  | cons line rest induction =>
      have later := induction fun other member => noJoins other (List.mem_cons_of_mem line member)
      rw [List.cons_append, readBody_skip (noJoins line List.mem_cons_self)
        (List.append_ne_nil_of_right_ne_nil rest more)]
      exact ⟨later.joins, later.ending⟩

theorem readBody_padded {mentioned : List String} (front : List (List Char))
    {added back : List (List Char)}
    (noJoins : ∀ line ∈ added, startsWith "JOIN" line = false) (more : back ≠ []) :
    SameClauses (readBody mentioned (front ++ (added ++ back)))
      (readBody mentioned (front ++ back)) := by
  induction front generalizing mentioned with
  | nil => exact readBody_added noJoins more
  | cons line rest induction =>
      rw [List.cons_append, List.cons_append]
      cases starts : startsWith "JOIN" line with
      | false =>
          have some := List.append_ne_nil_of_right_ne_nil added more
          rw [readBody_skip starts (List.append_ne_nil_of_right_ne_nil rest some),
            readBody_skip starts (List.append_ne_nil_of_right_ne_nil rest more)]
          exact ⟨induction.joins, induction.ending⟩
      | true =>
          cases read : readJoin mentioned line with
          | error fault =>
              rw [readBody_failed starts read, readBody_failed starts read]
              exact ⟨rfl, rfl⟩
          | ok join =>
              rw [readBody_join starts read, readBody_join starts read]
              have later := @induction (join.1 :: mentioned)
              exact ⟨congrArg (List.cons _) later.joins, later.ending⟩

namespace SameButSkips

variable {Value Other : Type} {one other : List Notice × Value}

theorem refl (run : List Notice × Value) : SameButSkips run run :=
  ⟨rfl, rfl⟩

theorem symm (same : SameButSkips one other) : SameButSkips other one :=
  ⟨same.remarks.symm, same.result.symm⟩

theorem trans {third : List Notice × Value} (first : SameButSkips one other)
    (second : SameButSkips other third) : SameButSkips one third :=
  ⟨first.remarks.trans second.remarks, first.result.trans second.result⟩

/-- What is told in front and what is made of the results do not change how two runs compare. -/
theorem map (front : List Notice) (image : Value → Other) (same : SameButSkips one other) :
    SameButSkips (front ++ one.1, image one.2) (front ++ other.1, image other.2) := by
  refine ⟨?_, congrArg image same.result⟩
  rw [remarks_append, remarks_append, same.remarks]

end SameButSkips

theorem findJoins_ofJoin (lookup : String → Option Base) (strict : Bool) (body : List BodyLine) :
    SameButSkips (findJoins lookup strict body)
      (findJoins lookup strict ((body.filterMap BodyLine.join?).map BodyLine.ofJoin)) := by
  induction body with
  | nil => exact .refl _
  | cons line rest induction =>
      cases line with
      | skipped line expected =>
          rw [List.filterMap_cons_none rfl]
          exact ⟨induction.remarks, induction.result⟩
      | join name conditions =>
          rw [List.filterMap_cons_some (f := BodyLine.join?) rfl, List.map_cons, BodyLine.ofJoin]
          cases known : lookup name with
          | some base =>
              simp only [findJoins, known]
              exact induction.map [] (Except.map (⟨⟨name, base⟩, conditions⟩ :: ·))
          | none =>
              simp only [findJoins, known]
              cases strict with
              | true => exact .refl _
              | false => exact induction.map [.unknownRelation name] id

theorem findJoins_skips (lookup : String → Option Base) (strict : Bool) {one other : List BodyLine}
    (joins : one.filterMap BodyLine.join? = other.filterMap BodyLine.join?) :
    SameButSkips (findJoins lookup strict one) (findJoins lookup strict other) := by
  have first := findJoins_ofJoin lookup strict one
  have second := findJoins_ofJoin lookup strict other
  rw [← joins] at second
  exact first.trans second.symm

/-- The notices and the outcome of a compilation. -/
def Compilation.run (compilation : Compilation Base) :
    List Notice × Except QueryFault (CanonicalPlan Base) :=
  (compilation.notices, compilation.outcome)

theorem Script.compile_skips (lookup : String → Option Base) (strict : Bool)
    (projection : Option (List String)) (sources : List Source)
    {one other : List BodyLine × Except QueryFault (List Predicate)}
    (same : SameClauses one other) :
    SameButSkips (Script.compile ⟨projection, sources, one.1, one.2⟩ lookup strict).run
      (Script.compile ⟨projection, sources, other.1, other.2⟩ lookup strict).run := by
  have joins := findJoins_skips lookup strict same.joins
  rw [Script.compile, Script.compile, same.ending]
  cases findSources lookup strict sources with
  | mk notices found =>
      cases found with
      | error fault => exact .refl _
      | ok scans =>
          cases scans with
          | nil => exact .refl _
          | cons first others =>
              cases here : findJoins lookup strict one.1 with
              | mk more answer =>
                  cases there : findJoins lookup strict other.1 with
                  | mk further another =>
                      rw [here, there] at joins
                      obtain ⟨told, rfl⟩ := joins
                      have together : remarks (notices ++ more) = remarks (notices ++ further) := by
                        rw [remarks_append, remarks_append, told]
                      cases answer with
                      | error fault => exact ⟨together, rfl⟩
                      | ok groups => exact ⟨together, rfl⟩

theorem compile_of_lines {text other : List Char} (same : Text.lines text = Text.lines other)
    (lookup : String → Option Base) (strict : Bool) :
    compile lookup strict text = compile lookup strict other := by
  rw [compile, compile, Script.ofText, Script.ofText, same]

theorem two_rows {pieces : List (List Char)} (two : 2 ≤ pieces.countP isSolid) :
    ∃ first second others, rows pieces = first :: second :: others := by
  have enough : 2 ≤ (rows pieces).length := by
    rw [rows, List.length_map, ← List.countP_eq_length_filter]
    exact two
  cases listed : rows pieces with
  | nil =>
      rw [listed] at enough
      exact absurd enough (Nat.not_succ_le_zero 1)
  | cons first more =>
      cases more with
      | nil =>
          rw [listed] at enough
          exact absurd enough (Nat.not_succ_le_self 1)
      | cons second others => exact ⟨first, second, others, rfl⟩

theorem startsWith_dropReturns {line : List Char} (other : startsWith "JOIN" line = false) :
    startsWith "JOIN" (dropReturns line) = false := by
  obtain ⟨returns, -, whole⟩ := exists_returns line
  rw [← Bool.not_eq_true, startsWith, List.isPrefixOf_iff_prefix] at other ⊢
  rw [whole] at other
  exact fun starts => other (starts.trans (List.prefix_append _ _))

/-- Lines that are put in between do not start like a JOIN clause, and they are skipped. -/
theorem compile_padded {text other : List Char} (padded : Padded text other)
    (lookup : String → Option Base) (strict : Bool) :
    SameButSkips (compile lookup strict text).run (compile lookup strict other).run := by
  induction padded with
  | symm _ induction => exact induction.symm
  | trans _ _ first second => exact first.trans second
  | @insert text other before added after allowed here there =>
      -- The first two lines are in front of the place, and the last one is behind it.
      obtain ⟨two, ⟨last, member, solid⟩, noJoins⟩ := allowed
      obtain ⟨selectLine, fromLine, front, split⟩ := two_rows two
      have back : rows after ≠ [] :=
        List.ne_nil_of_mem (List.mem_map_of_mem (List.mem_filter.mpr ⟨member, solid⟩))
      have clean : ∀ line ∈ rows added, startsWith "JOIN" line = false := by
        intro line within
        obtain ⟨piece, listed, rfl⟩ := List.mem_map.mp within
        exact startsWith_dropReturns (noJoins piece (List.mem_filter.mp listed).1)
      have order : Text.lines text = selectLine :: fromLine :: (front ++ rows after) := by
        rw [lines_eq_rows, here, rows_append, split]
        rfl
      have longer : Text.lines other =
          selectLine :: fromLine :: (front ++ (rows added ++ rows after)) := by
        rw [lines_eq_rows, there, rows_append, rows_append, split]
        rfl
      rw [compile, compile, Script.ofText, Script.ofText, order, longer, Script.ofLines,
        Script.ofLines]
      cases readProjection selectLine with
      | error fault => exact .refl _
      | ok projection =>
          cases readSources fromLine with
          | error fault => exact .refl _
          | ok sources =>
              have same := @readBody_padded (sources.map Source.name) front _ _ clean back
              exact (Script.compile_skips lookup strict projection sources same).symm

end Selectivity.Query
