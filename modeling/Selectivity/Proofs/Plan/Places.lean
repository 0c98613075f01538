import Mathlib.Data.List.Forall2
import Selectivity.Tree

/-!
# Places in a tree

A place tells the way down from the root, by the number of the subtree to take at every step. Places
are compared from their beginning, so that each one stands before the places below it and before
those to its right. Listed in this order, the labels at all places are the labels in pre-order. With
the depths of the places they tell the whole tree.
-/

namespace Selectivity.Tree

variable {α β : Type}

/-- The subtree at a place. -/
def subtree? : Tree α → List Nat → Option (Tree α)
  | tree, [] => some tree
  | tree, index :: rest =>
      match tree.children[index]? with
      | some child => child.subtree? rest
      | none => none

mutual

/-- The places of a tree, each one before those below it. -/
def places : Tree α → List (List Nat)
  | .node _ children => [] :: placesFrom 0 children

/-- The places of several trees next to each other, of which the first one has the given number. -/
def placesFrom (index : Nat) : List (Tree α) → List (List Nat)
  | [] => []
  | tree :: rest => (places tree).map (index :: ·) ++ placesFrom (index + 1) rest

end

mutual

/-- The labels of a tree whose root stands at the given depth, in pre-order and each with its own
depth. -/
def levelsAt (depth : Nat) : Tree α → List (Nat × α)
  | .node label children => (depth, label) :: levelsOf (depth + 1) children

/-- The labels of several trees whose roots stand at the given depth. -/
def levelsOf (depth : Nat) : List (Tree α) → List (Nat × α)
  | [] => []
  | tree :: rest => levelsAt depth tree ++ levelsOf depth rest

end

theorem levelsAt_ne_nil (depth : Nat) (tree : Tree α) : tree.levelsAt depth ≠ [] := by
  cases tree with
  | node label children =>
      rw [levelsAt]
      exact List.cons_ne_nil _ _

theorem subtree?_cons (tree : Tree α) (index : Nat) (rest : List Nat) :
    tree.subtree? (index :: rest) =
      tree.children[index]?.bind fun child => child.subtree? rest := by
  rw [subtree?]
  cases tree.children[index]? <;> rfl

theorem subtree?_map (image : α → β) (tree : Tree α) (place : List Nat) :
    (tree.map image).subtree? place = (tree.subtree? place).map (map image) := by
  induction place generalizing tree with
  | nil => rfl
  | cons index rest induction =>
      cases tree with
      | node label below =>
          rw [map_node, subtree?_cons, subtree?_cons, children, children, List.getElem?_map]
          cases below[index]? with
          | none => rfl
          | some child => exact induction child

theorem mem_placesFrom {index : Nat} {trees : List (Tree α)} {place : List Nat} :
    place ∈ placesFrom index trees ↔ ∃ offset child rest,
      trees[offset]? = some child ∧ rest ∈ child.places ∧ place = (index + offset) :: rest := by
  induction trees generalizing index with
  | nil =>
      rw [placesFrom]
      constructor
      · intro member
        cases member
      · rintro ⟨offset, child, rest, found, -⟩
        cases found
  | cons tree trees induction =>
      rw [placesFrom, List.mem_append, List.mem_map, induction]
      constructor
      · rintro (⟨rest, member, rfl⟩ | ⟨offset, child, rest, found, member, rfl⟩)
        · exact ⟨0, tree, rest, rfl, member, rfl⟩
        · exact ⟨offset + 1, child, rest, found, member, by rw [Nat.add_right_comm, Nat.add_assoc]⟩
      · rintro ⟨offset, child, rest, found, member, rfl⟩
        cases offset with
        | zero =>
            cases found
            exact Or.inl ⟨rest, member, rfl⟩
        | succ offset =>
            exact Or.inr ⟨offset, child, rest, found, member, by
              rw [Nat.add_right_comm, Nat.add_assoc]⟩

theorem mem_places {tree : Tree α} {place : List Nat} :
    place ∈ tree.places ↔ ∃ part, tree.subtree? place = some part := by
  induction place generalizing tree with
  | nil =>
      cases tree with
      | node label children =>
          rw [places]
          exact iff_of_true List.mem_cons_self ⟨_, rfl⟩
  | cons index rest induction =>
      cases tree with
      | node label children =>
          rw [places, List.mem_cons, or_iff_right (List.cons_ne_nil _ _), mem_placesFrom,
            subtree?_cons]
          simp only [Option.bind_eq_some_iff]
          constructor
          · rintro ⟨offset, child, below, found, member, same⟩
            rw [Nat.zero_add, List.cons.injEq] at same
            obtain ⟨rfl, rfl⟩ := same
            obtain ⟨part, here⟩ := induction.mp member
            exact ⟨part, child, found, here⟩
          · rintro ⟨part, child, found, here⟩
            exact ⟨index, child, rest, found, induction.mpr ⟨part, here⟩, by rw [Nat.zero_add]⟩

mutual

theorem places_sorted (tree : Tree α) : tree.places.Pairwise (· < ·) := by
  cases tree with
  | node label children =>
      rw [places, List.pairwise_cons]
      refine ⟨fun place member => ?_, placesFrom_sorted 0 children⟩
      obtain ⟨offset, child, rest, -, -, rfl⟩ := mem_placesFrom.mp member
      exact List.nil_lt_cons _ _

theorem placesFrom_sorted (index : Nat) (trees : List (Tree α)) :
    (placesFrom index trees).Pairwise (· < ·) := by
  cases trees with
  | nil =>
      rw [placesFrom]
      exact .nil
  | cons tree trees =>
      rw [placesFrom, List.pairwise_append]
      refine ⟨?_, placesFrom_sorted (index + 1) trees, ?_⟩
      · rw [List.pairwise_map]
        exact (places_sorted tree).imp fun less => List.cons_lt_cons_iff.mpr (Or.inr ⟨rfl, less⟩)
      · intro place member other later
        obtain ⟨rest, -, rfl⟩ := List.mem_map.mp member
        obtain ⟨offset, child, further, -, -, rfl⟩ := mem_placesFrom.mp later
        exact List.cons_lt_cons_iff.mpr (Or.inl (by omega))

end

mutual

/-- The labels in pre-order stand at the places in their order, and the depth of a label is the
length of its place. -/
theorem levelsAt_places (depth : Nat) (tree : Tree α) :
    List.Forall₂ (fun place level => ∃ part, tree.subtree? place = some part ∧
      level = (depth + place.length, part.label)) tree.places (tree.levelsAt depth) := by
  cases tree with
  | node label children =>
      rw [places, levelsAt]
      exact .cons ⟨_, rfl, rfl⟩ (levelsOf_places depth label [] children)

theorem levelsOf_places (depth : Nat) (label : α) (before trees : List (Tree α)) :
    List.Forall₂ (fun place level => ∃ part,
      subtree? (.node label (before ++ trees)) place = some part ∧
        level = (depth + place.length, part.label))
      (placesFrom before.length trees) (levelsOf (depth + 1) trees) := by
  cases trees with
  | nil =>
      rw [placesFrom, levelsOf]
      exact .nil
  | cons tree trees =>
      rw [placesFrom, levelsOf]
      refine List.rel_append ?_ ?_
      · rw [List.forall₂_map_left_iff]
        refine (levelsAt_places (depth + 1) tree).imp ?_
        rintro place level ⟨part, here, rfl⟩
        have found : (before ++ tree :: trees)[before.length]? = some tree := by
          rw [List.getElem?_append_right (Nat.le_refl _), Nat.sub_self]
          rfl
        refine ⟨part, ?_, ?_⟩
        · rw [subtree?_cons, children, found, Option.bind_some, here]
        · rw [List.length_cons, Nat.add_right_comm, Nat.add_assoc]
      · have later := levelsOf_places depth label (before ++ [tree]) trees
        rw [List.append_assoc, List.length_append] at later
        exact later

end

mutual

theorem levelsAt_preorder (depth : Nat) (tree : Tree α) :
    (tree.levelsAt depth).map Prod.snd = tree.preorder := by
  cases tree with
  | node label children =>
      rw [levelsAt, preorder_node, List.map_cons, levelsOf_preorder (depth + 1) children]

theorem levelsOf_preorder (depth : Nat) (trees : List (Tree α)) :
    (levelsOf depth trees).map Prod.snd = trees.flatMap preorder := by
  cases trees with
  | nil =>
      rw [levelsOf]
      rfl
  | cons tree trees =>
      rw [levelsOf, List.map_append, List.flatMap_cons, levelsAt_preorder depth tree,
        levelsOf_preorder depth trees]

end

mutual

theorem levelsAt_map (image : α → β) (depth : Nat) (tree : Tree α) :
    (tree.map image).levelsAt depth = (tree.levelsAt depth).map (Prod.map id image) := by
  cases tree with
  | node label children =>
      rw [map_node, levelsAt, levelsAt, List.map_cons, levelsOf_map image (depth + 1) children]
      rfl

theorem levelsOf_map (image : α → β) (depth : Nat) (trees : List (Tree α)) :
    levelsOf depth (trees.map (map image)) = (levelsOf depth trees).map (Prod.map id image) := by
  cases trees with
  | nil =>
      rw [List.map_nil, levelsOf, levelsOf]
      rfl
  | cons tree trees =>
      rw [List.map_cons, levelsOf, levelsOf, List.map_append, levelsAt_map image depth tree,
        levelsOf_map image depth trees]

end

/-- The first level of a list, if there is one, is above the given depth. -/
def EndsAbove (depth : Nat) (levels : List (Nat × α)) : Prop :=
  ∀ level ∈ levels.head?, level.1 < depth

theorem EndsAbove.levelsOf {depth : Nat} {trees : List (Tree α)} {rest : List (Nat × α)}
    (ends : EndsAbove depth rest) : EndsAbove (depth + 1) (levelsOf depth trees ++ rest) := by
  intro level first
  cases trees with
  | nil =>
      rw [Tree.levelsOf, List.nil_append] at first
      exact Nat.lt_succ_of_lt (ends level first)
  | cons tree trees =>
      cases tree with
      | node label children =>
          rw [Tree.levelsOf, levelsAt] at first
          cases first
          exact Nat.lt_succ_self depth

theorem EndsAbove.ne {depth : Nat} {tree : Tree α} {trees : List (Tree α)}
    {rest further : List (Nat × α)} (ends : EndsAbove depth rest) :
    rest ≠ Tree.levelsOf depth (tree :: trees) ++ further := by
  rintro rfl
  cases tree with
  | node label children =>
      rw [EndsAbove, Tree.levelsOf, levelsAt] at ends
      exact absurd (ends _ rfl) (Nat.lt_irrefl depth)

mutual

/-- A tree can be told from its levels, whatever follows them, as long as that is not below its
root. -/
theorem levelsAt_append_injective {depth : Nat} {left right : Tree α}
    {rest further : List (Nat × α)} (ends : EndsAbove (depth + 1) rest)
    (furtherEnds : EndsAbove (depth + 1) further)
    (same : left.levelsAt depth ++ rest = right.levelsAt depth ++ further) :
    left = right ∧ rest = further := by
  cases left with
  | node label children =>
      cases right with
      | node other others =>
          rw [levelsAt, levelsAt, List.cons_append, List.cons_append, List.cons.injEq,
            Prod.mk.injEq] at same
          obtain ⟨⟨-, rfl⟩, below⟩ := same
          obtain ⟨rfl, rfl⟩ := levelsOf_append_injective ends furtherEnds below
          exact ⟨rfl, rfl⟩

theorem levelsOf_append_injective {depth : Nat} {lefts rights : List (Tree α)}
    {rest further : List (Nat × α)} (ends : EndsAbove depth rest)
    (furtherEnds : EndsAbove depth further)
    (same : levelsOf depth lefts ++ rest = levelsOf depth rights ++ further) :
    lefts = rights ∧ rest = further := by
  cases lefts with
  | nil =>
      cases rights with
      | nil =>
          rw [levelsOf, List.nil_append, List.nil_append] at same
          exact ⟨rfl, same⟩
      | cons right rights =>
          rw [levelsOf, List.nil_append] at same
          exact absurd same ends.ne
  | cons left lefts =>
      cases rights with
      | nil =>
          rw [levelsOf, List.nil_append] at same
          exact absurd same.symm furtherEnds.ne
      | cons right rights =>
          rw [levelsOf, levelsOf, List.append_assoc, List.append_assoc] at same
          obtain ⟨rfl, later⟩ := levelsAt_append_injective ends.levelsOf furtherEnds.levelsOf same
          obtain ⟨rfl, rfl⟩ := levelsOf_append_injective ends furtherEnds later
          exact ⟨rfl, rfl⟩

end

theorem levelsAt_injective (depth : Nat) :
    Function.Injective fun tree : Tree α => tree.levelsAt depth := by
  intro left right same
  have ends : EndsAbove (depth + 1) ([] : List (Nat × α)) := nofun
  exact (levelsAt_append_injective ends ends (congrArg (· ++ []) same)).1

end Selectivity.Tree
