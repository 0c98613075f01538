import Selectivity.Proofs.Catalog.Tables
import Selectivity.Proofs.Session.Catalogs

/-!
# Catalogues from mixed rows in a session

A table of rows is imported as a catalogue that keeps the rows of each relation together, whatever
stands between them. So tables in which the names first occur in the same order, and each name has
the same rows, are imported as the same catalogue. A count that is out of bounds is refused, and the
session stays as it was.
-/

namespace Selectivity.Session

open StatisticsRow

variable {session : Session} {told : List StatisticsRow} {table : List (List (String × Cell))}

/-- A table of rows is imported as a catalogue that keeps what they say, or refused for a count that
is out of bounds. -/
theorem importFrame_of_tabulated (wellFormed : session.store.WellFormed)
    (tabulated : Tabulated told table) (nonempty : told ≠ [])
    (small : ∀ row ∈ told, ∀ column ∈ row.column, column.2 ≤ 2 ^ Binary64.precision) :
    ∃ frame, Frame.ofRows? table = some frame ∧
      let step := session.perform (.importFrame .standard frame)
      (InBounds told → ∃ ref catalog, step.2 = .success (.catalog ref) ∧
        step.1.store.catalog? ref = some catalog ∧
        Keeps told (step.1.store.catalogRelations catalog)) ∧
      (¬ InBounds told → ∃ fault : StatisticFault, fault.Genuine ∧
        step = session.refuse (.catalog (.statistic fault)) ∧
        ((∀ row ∈ told, row.Short) → fault.isTold = true)) := by
  obtain ⟨frame, made, answers⟩ := tabulated.answers_ofFrame nonempty small
  refine ⟨frame, made, ?_⟩
  intro step
  have performed : step = session.keepStatistics (Catalog.ofFrame .standard frame) := rfl
  rw [performed]
  generalize Catalog.ofFrame .standard frame = read at answers
  cases answers with
  | @ok statistics holds keeps =>
      obtain ⟨ref, catalog, success, known, same⟩ := keepStatistics_ok wellFormed statistics
      refine ⟨fun _ => ⟨ref, catalog, success, known, ?_⟩, fun fails => absurd holds fails⟩
      rw [same]
      exact keeps
  | @refused fault fails genuine tells =>
      exact ⟨fun holds => absurd holds fails, fun _ => ⟨fault, genuine, rfl, tells⟩⟩

theorem mem_of_same_rows {others : List StatisticsRow} {row : StatisticsRow}
    (own : ∀ name, others.filter (fun row => row.relation == name) =
      told.filter fun row => row.relation == name) (member : row ∈ others) : row ∈ told := by
  have inside : row ∈ others.filter fun other => other.relation == row.relation :=
    List.mem_filter.mpr ⟨member, beq_self_eq_true _⟩
  rw [own] at inside
  exact (List.mem_filter.mp inside).1

/-- The rows of two relations, one between the two of the other. The size that the last row says is
not used. -/
def mixedRows : List StatisticsRow :=
  [⟨"R", 3, some ("a", 2)⟩, ⟨"S", 0, none⟩, ⟨"R", -5, some ("b", 9007199254740992)⟩]

/-- A table of these rows, in which the entries of a row stand in any order. -/
def mixedTable : List (List (String × Cell)) :=
  [[("relation", .text "R"), ("tuple_count", .integer 3), ("attribute", .text "a"),
      ("value_count", .integer 2)],
    [("value_count", .missing), ("attribute", .null), ("relation", .text "S"),
      ("tuple_count", .integer 0)],
    [("attribute", .text "b"), ("relation", .text "R"), ("value_count", .integer 9007199254740992),
      ("tuple_count", .integer (-5))]]

theorem mixedTable_tabulated : Tabulated mixedRows mixedTable where
  held := .cons ⟨rfl, rfl, by decide, by decide, .column "a" 2⟩
    (.cons ⟨rfl, rfl, by decide, by decide, .none _ rfl⟩
      (.cons ⟨rfl, rfl, by decide, by decide, .column "b" 9007199254740992⟩ .nil))
  shared := by decide

/-- The same rows relation by relation. -/
def sortedRows : List StatisticsRow :=
  [⟨"R", 3, some ("a", 2)⟩, ⟨"R", -5, some ("b", 9007199254740992)⟩, ⟨"S", 0, none⟩]

end Selectivity.Session
