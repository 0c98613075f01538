/-!
# Sets of names

A finite set of names is kept as the list of its members in code point order, each of them once.
-/

namespace Selectivity.NameSet

def insert (name : String) : List String → List String
  | [] => [name]
  | first :: rest =>
      if name < first then name :: first :: rest
      else if name = first then first :: rest
      else first :: insert name rest

theorem mem_insert {name other : String} {names : List String} :
    other ∈ insert name names ↔ other = name ∨ other ∈ names := by
  induction names with
  | nil => rw [insert, List.mem_singleton, or_iff_left List.not_mem_nil]
  | cons first rest induction =>
      rw [insert]
      split
      · rw [List.mem_cons]
      · split
        · next same =>
            rw [same, List.mem_cons]
            exact ⟨Or.inr, fun member => member.elim Or.inl id⟩
        · rw [List.mem_cons, induction, List.mem_cons, or_left_comm]

/-- The set of all names in a list. -/
def ofList (names : List String) : List String :=
  names.foldl (fun set name => insert name set) []

theorem mem_ofList {name : String} {names : List String} : name ∈ ofList names ↔ name ∈ names := by
  have fold : ∀ set : List String,
      name ∈ names.foldl (fun set name => insert name set) set ↔ name ∈ names ∨ name ∈ set := by
    induction names with
    | nil => exact fun set => (or_iff_right List.not_mem_nil).symm
    | cons first rest induction =>
        intro set
        rw [List.foldl_cons, induction, mem_insert, List.mem_cons, or_left_comm, or_assoc]
  rw [ofList, fold, or_iff_left List.not_mem_nil]

/-- The set of all names that are in one of the given sets. -/
def union (sets : List (List String)) : List String :=
  ofList sets.flatten

theorem mem_union {name : String} {sets : List (List String)} :
    name ∈ union sets ↔ ∃ set ∈ sets, name ∈ set := by
  rw [union, mem_ofList, List.mem_flatten]

end Selectivity.NameSet
