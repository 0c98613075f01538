/-!
# Ordered trees

A tree is a label over an ordered list of subtrees. Whatever is computed bottom-up from a tree is
a `fold`: the label is combined with the results of the subtrees, from left to right.
-/

namespace Selectivity

/-- A label over the trees below it. -/
inductive Tree (α : Type) where
  | node (label : α) (children : List (Tree α))
  deriving Repr

namespace Tree

def label {α : Type} : Tree α → α
  | .node label _ => label

def children {α : Type} : Tree α → List (Tree α)
  | .node _ children => children

mutual

/-- Combines every label with the results of the subtrees below it. -/
def fold {α β : Type} (combine : α → List β → β) : Tree α → β
  | .node label children => combine label (foldAll combine children)

/-- The results of several trees in order. -/
def foldAll {α β : Type} (combine : α → List β → β) : List (Tree α) → List β
  | [] => []
  | tree :: rest => fold combine tree :: foldAll combine rest

end

theorem foldAll_eq_map {α β : Type} (combine : α → List β → β)
    (trees : List (Tree α)) : foldAll combine trees = trees.map (fold combine) := by
  induction trees with
  | nil => rw [foldAll, List.map_nil]
  | cons tree rest induction => rw [foldAll, List.map_cons, induction]

@[simp]
theorem fold_node {α β : Type} (combine : α → List β → β) (label : α)
    (children : List (Tree α)) :
    fold combine (.node label children) = combine label (children.map (fold combine)) := by
  rw [fold, foldAll_eq_map]

/-- The tree with every label replaced by its image. -/
def map {α β : Type} (image : α → β) : Tree α → Tree β :=
  fold fun label children => .node (image label) children

/-- All labels, each one before those below it. -/
def preorder {α : Type} : Tree α → List α :=
  fold fun label below => label :: below.flatten

theorem preorder_node {α : Type} (label : α) (children : List (Tree α)) :
    preorder (.node label children) = label :: children.flatMap preorder :=
  fold_node _ label children

theorem mem_preorder_node {α : Type} {label other : α} {children : List (Tree α)} :
    other ∈ preorder (.node label children) ↔
      other = label ∨ ∃ child ∈ children, other ∈ preorder child := by
  rw [preorder_node, List.mem_cons, List.mem_flatMap]

theorem map_node {α β : Type} (image : α → β) (label : α) (children : List (Tree α)) :
    map image (.node label children) = .node (image label) (children.map (map image)) :=
  fold_node _ label children

mutual

theorem preorder_map {α β : Type} (image : α → β) (tree : Tree α) :
    preorder (map image tree) = (preorder tree).map image := by
  cases tree with
  | node label children =>
      rw [map_node, preorder_node, preorder_node, flatMap_preorder_map image children,
        List.map_cons]

theorem flatMap_preorder_map {α β : Type} (image : α → β) (trees : List (Tree α)) :
    (trees.map (map image)).flatMap preorder = (trees.flatMap preorder).map image := by
  cases trees with
  | nil => rfl
  | cons tree rest =>
      rw [List.map_cons, List.flatMap_cons, List.flatMap_cons, List.map_append,
        preorder_map image tree, flatMap_preorder_map image rest]

end

mutual

/-- Do two trees have one shape, with labels that agree place by place? -/
def agree {α β : Type} (same : α → β → Bool) : Tree α → Tree β → Bool
  | .node left leftChildren, .node right rightChildren =>
      same left right && agreeAll same leftChildren rightChildren

/-- Do two lists of trees agree one by one? -/
def agreeAll {α β : Type} (same : α → β → Bool) : List (Tree α) → List (Tree β) → Bool
  | [], [] => true
  | left :: lefts, right :: rights => agree same left right && agreeAll same lefts rights
  | _, _ => false

end

mutual

/-- Two trees are equal exactly if their labels are, place by place. -/
theorem agree_iff_eq {α : Type} [DecidableEq α] (left right : Tree α) :
    agree (fun one other => decide (one = other)) left right = true ↔ left = right := by
  cases left with
  | node label below =>
      cases right with
      | node other others =>
          rw [agree, Bool.and_eq_true, decide_eq_true_iff, agreeAll_iff_eq below others,
            node.injEq]

theorem agreeAll_iff_eq {α : Type} [DecidableEq α] (lefts rights : List (Tree α)) :
    agreeAll (fun one other => decide (one = other)) lefts rights = true ↔ lefts = rights := by
  cases lefts with
  | nil =>
      cases rights with
      | nil => exact iff_of_true rfl rfl
      | cons right rest => exact iff_of_false nofun nofun
  | cons left rest =>
      cases rights with
      | nil => exact iff_of_false nofun nofun
      | cons right others =>
          rw [agreeAll, Bool.and_eq_true, agree_iff_eq left right, agreeAll_iff_eq rest others,
            List.cons.injEq]

end

instance {α : Type} [DecidableEq α] : DecidableEq (Tree α) :=
  fun left right => decidable_of_iff _ (agree_iff_eq left right)

mutual

/-- Two trees have one shape, with labels that are related place by place. -/
inductive Alike {α β : Type} (related : α → β → Prop) : Tree α → Tree β → Prop where
  | node {left : α} {right : β} {lefts : List (Tree α)} {rights : List (Tree β)}
      (labels : related left right) (below : AlikeAll related lefts rights) :
      Alike related (.node left lefts) (.node right rights)

/-- Two lists of trees are alike one by one. -/
inductive AlikeAll {α β : Type} (related : α → β → Prop) :
    List (Tree α) → List (Tree β) → Prop where
  | nil : AlikeAll related [] []
  | cons {left : Tree α} {right : Tree β} {lefts : List (Tree α)} {rights : List (Tree β)}
      (first : Alike related left right) (others : AlikeAll related lefts rights) :
      AlikeAll related (left :: lefts) (right :: rights)

end

end Tree

end Selectivity
