import Selectivity.Plan.Basic
import Selectivity.Proofs.Statistics.Rules

/-!
# Equal plans

Two plans are the same if their operators do the same work, place by place. That can be told from
their bare trees, in which nothing is left of the statistics. So it is an equivalence, and no change
of statistics can touch it.
-/

namespace Selectivity

namespace Tree

variable {α β γ : Type}

mutual

theorem agree_iff_alike (same : α → β → Bool) (left : Tree α) (right : Tree β) :
    agree same left right = true ↔ Alike (fun one other => same one other = true) left right := by
  cases left with
  | node label below =>
      cases right with
      | node other others =>
          rw [agree, Bool.and_eq_true, agreeAll_iff_alikeAll same below others]
          constructor
          · rintro ⟨labels, all⟩
            exact .node labels all
          · intro alike
            cases alike with
            | node labels all => exact ⟨labels, all⟩

theorem agreeAll_iff_alikeAll (same : α → β → Bool) (lefts : List (Tree α))
    (rights : List (Tree β)) :
    agreeAll same lefts rights = true ↔
      AlikeAll (fun one other => same one other = true) lefts rights := by
  cases lefts with
  | nil =>
      cases rights with
      | nil => exact iff_of_true rfl .nil
      | cons right others => exact iff_of_false nofun nofun
  | cons left rest =>
      cases rights with
      | nil => exact iff_of_false nofun nofun
      | cons right others =>
          rw [agreeAll, Bool.and_eq_true, agree_iff_alike same left right,
            agreeAll_iff_alikeAll same rest others]
          constructor
          · rintro ⟨first, later⟩
            exact .cons first later
          · intro alike
            cases alike with
            | cons first later => exact ⟨first, later⟩

end

section Folds

variable {combine : α → List γ → γ} {related : α → α → Prop} {Good : Tree α → Prop}

/-- Over good trees, only related labels with the same results below them have one result. -/
structure Telling (combine : α → List γ → γ) (related : α → α → Prop) (Good : Tree α → Prop) :
    Prop where
  inherited : ∀ label below, Good (.node label below) → ∀ child ∈ below, Good child
  labels : ∀ one below other others, Good (.node one below) → Good (.node other others) →
    combine one (below.map (fold combine)) = combine other (others.map (fold combine)) →
    related one other ∧ below.map (fold combine) = others.map (fold combine)

mutual

theorem Telling.alike (telling : Telling combine related Good) (left right : Tree α)
    (leftGood : Good left) (rightGood : Good right)
    (same : fold combine left = fold combine right) : Alike related left right := by
  cases left with
  | node label below =>
      cases right with
      | node other others =>
          rw [fold_node, fold_node] at same
          obtain ⟨labels, results⟩ :=
            telling.labels label below other others leftGood rightGood same
          exact .node labels (Telling.alikeAll telling below others
            (telling.inherited label below leftGood) (telling.inherited other others rightGood)
            results)

theorem Telling.alikeAll (telling : Telling combine related Good) (lefts rights : List (Tree α))
    (leftsGood : ∀ left ∈ lefts, Good left) (rightsGood : ∀ right ∈ rights, Good right)
    (same : lefts.map (fold combine) = rights.map (fold combine)) :
    AlikeAll related lefts rights := by
  cases lefts with
  | nil =>
      cases rights with
      | nil => exact .nil
      | cons right others => cases same
  | cons left rest =>
      cases rights with
      | nil => cases same
      | cons right others =>
          rw [List.map_cons, List.map_cons, List.cons.injEq] at same
          have first := Telling.alike telling left right (leftsGood left List.mem_cons_self)
            (rightsGood right List.mem_cons_self) same.1
          have later := Telling.alikeAll telling rest others
            (fun child member => leftsGood child (List.mem_cons_of_mem left member))
            (fun child member => rightsGood child (List.mem_cons_of_mem right member)) same.2
          exact .cons first later

end

mutual

theorem Alike.fold_eq {left right : Tree α}
    (results : ∀ one other, related one other → ∀ below, combine one below = combine other below)
    (alike : Alike related left right) : fold combine left = fold combine right := by
  cases alike with
  | node labels below =>
      rw [fold_node, fold_node, AlikeAll.fold_eq results below]
      exact results _ _ labels _

theorem AlikeAll.fold_eq {lefts rights : List (Tree α)}
    (results : ∀ one other, related one other → ∀ below, combine one below = combine other below)
    (alike : AlikeAll related lefts rights) :
    lefts.map (fold combine) = rights.map (fold combine) := by
  cases alike with
  | nil => rfl
  | cons first others =>
      rw [List.map_cons, List.map_cons, Alike.fold_eq results first,
        AlikeAll.fold_eq results others]

end

end Folds

theorem Alike.roots {left right : Tree α} {related : α → α → Prop}
    (alike : Alike related left right) : related left.label right.label := by
  cases alike with
  | node labels => exact labels

mutual

theorem Alike.imp {left right : Tree α} {related other : α → α → Prop}
    (implies : ∀ one ∈ left.preorder, ∀ another ∈ right.preorder,
      related one another → other one another)
    (alike : Alike related left right) : Alike other left right := by
  cases alike with
  | node labels below =>
      refine .node (implies _ (mem_preorder_node.mpr (Or.inl rfl)) _
        (mem_preorder_node.mpr (Or.inl rfl)) labels) (AlikeAll.imp ?_ below)
      intro child member further within one here another there
      exact implies one (mem_preorder_node.mpr (Or.inr ⟨child, member, here⟩)) another
        (mem_preorder_node.mpr (Or.inr ⟨further, within, there⟩))

theorem AlikeAll.imp {lefts rights : List (Tree α)} {related other : α → α → Prop}
    (implies : ∀ left ∈ lefts, ∀ right ∈ rights, ∀ one ∈ left.preorder,
      ∀ another ∈ right.preorder, related one another → other one another)
    (alike : AlikeAll related lefts rights) : AlikeAll other lefts rights := by
  cases alike with
  | nil => exact .nil
  | @cons left right _ _ first others =>
      refine .cons (Alike.imp (implies left List.mem_cons_self right List.mem_cons_self) first)
        (AlikeAll.imp ?_ others)
      exact fun child member further within =>
        implies child (List.mem_cons_of_mem left member) further
          (List.mem_cons_of_mem right within)

end

mutual

theorem Alike.and {left right : Tree α} {related other : α → α → Prop}
    (alike : Alike related left right) (also : Alike other left right) :
    Alike (fun one another => related one another ∧ other one another) left right := by
  cases alike with
  | node labels below =>
      cases also with
      | node others further => exact .node ⟨labels, others⟩ (AlikeAll.and below further)

theorem AlikeAll.and {lefts rights : List (Tree α)} {related other : α → α → Prop}
    (alike : AlikeAll related lefts rights) (also : AlikeAll other lefts rights) :
    AlikeAll (fun one another => related one another ∧ other one another) lefts rights := by
  cases alike with
  | nil => exact .nil
  | cons first others =>
      cases also with
      | cons here there => exact .cons (Alike.and first here) (AlikeAll.and others there)

end

mutual

theorem fold_map (combine : β → List γ → γ) (image : α → β) (tree : Tree α) :
    fold combine (map image tree) = fold (fun label below => combine (image label) below) tree := by
  cases tree with
  | node label below =>
      rw [map_node, fold_node, fold_node, List.map_map, map_fold_map combine image below]

theorem map_fold_map (combine : β → List γ → γ) (image : α → β) (trees : List (Tree α)) :
    trees.map (fold combine ∘ map image) =
      trees.map (fold fun label below => combine (image label) below) := by
  cases trees with
  | nil => rfl
  | cons tree rest =>
      rw [List.map_cons, List.map_cons, Function.comp_apply, fold_map combine image tree,
        map_fold_map combine image rest]

end

theorem map_map (second : β → γ) (first : α → β) (tree : Tree α) :
    map second (map first tree) = map (fun label => second (first label)) tree :=
  fold_map _ first tree

theorem map_eq_iff_alike (image : α → β) (left right : Tree α) :
    map image left = map image right ↔
      Alike (fun one other => image one = image other) left right := by
  constructor
  · intro same
    -- An image is a fold, and what it makes of a label can be told from the result.
    have telling : Telling (fun label below => Tree.node (image label) below)
        (fun one other => image one = image other) fun _ : Tree α => True :=
      ⟨fun _ _ _ _ _ => trivial, fun _ _ _ _ _ _ same => node.inj same⟩
    exact telling.alike left right trivial trivial same
  · refine Alike.fold_eq fun one other same below => ?_
    rw [same]

end Tree

namespace Operator

/-- Is the operator of none but the five kinds? -/
def isNative {Base : Type} : Operator Base → Bool
  | .foreign _ => false
  | _ => true

theorem isNative_of_hasRule {Base : Type} {operator : Operator Base}
    (rule : operator.hasRule = true) : operator.isNative = true := by
  cases operator with
  | «foreign» kind => exact absurd rule Bool.false_ne_true
  | _ => rfl

/-- Two operators are of the same one of the five kinds. -/
inductive SameKind {Base Other : Type} : Operator Base → Operator Other → Prop where
  | scans (name other : String) (base : Base) (held : Other) :
      SameKind (.scan name base) (.scan other held)
  | projections (attributes others : List String) :
      SameKind (.project attributes) (.project others)
  | selections (condition other : Option Predicate) :
      SameKind (.select condition) (.select other)
  | products : SameKind .product .product
  | joins (condition other : Comparison) : SameKind (.join condition) (.join other)

theorem sameKind_of_kind_eq {Base Other : Type} {left : Operator Base} {right : Operator Other}
    (leftNative : left.isNative = true) (rightNative : right.isNative = true)
    (kinds : left.kind = right.kind) : SameKind left right := by
  -- Different kinds have different names, so only the pairs of one kind are left.
  cases left <;> cases right <;> simp [kind, isNative] at leftNative rightNative kinds
  case scan.scan name base other held => exact .scans name other base held
  case project.project attributes others => exact .projections attributes others
  case select.select condition other => exact .selections condition other
  case product.product => exact .products
  case join.join condition other => exact .joins condition other

end Operator

/-- An operator without the statistics of a base relation. -/
def Operator.bare {Base : Type} (operator : Operator Base) : Operator Unit :=
  operator.mapBase fun _ => ()

@[simp]
theorem Operator.bare_mapBase {Base Other : Type} (image : Base → Other)
    (operator : Operator Base) : (operator.mapBase image).bare = operator.bare := by
  cases operator <;> rfl

theorem Operator.sameWork_iff_bare_eq {Base Other : Type} (left : Operator Base)
    (right : Operator Other) : left.sameWork right = true ↔ left.bare = right.bare := by
  cases left <;> cases right <;> simp [sameWork, bare, mapBase]

/-- What is left of a plan without its statistics: the kinds of its operators, the names that they
scan, the attributes that they keep and their conditions. -/
def Plan.bare : Plan → Tree (Operator Unit) :=
  Tree.map fun node => node.operator.bare

theorem Plan.sameAs_iff (left right : Plan) :
    left.sameAs right = true ↔ left.bare = right.bare := by
  rw [sameAs, Tree.agree_iff_alike, bare, Tree.map_eq_iff_alike]
  simp only [Operator.sameWork_iff_bare_eq]

end Selectivity
