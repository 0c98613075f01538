import Selectivity.Proofs.Estimation.Agreement
import Selectivity.Proofs.Query.Parts
import Selectivity.Proofs.Statistics.Sources

/-!
# Where the attributes of an output come from

Every attribute that an operator puts out has its name from an attribute of an input. So what a plan
puts out has no other names than its base relations, and if these have texts for names, nothing but
a missing attribute or a number that is too long to be written can end an estimation.
-/

namespace Selectivity

namespace Relation

/-- All attributes are called by texts. -/
def Named (relation : Relation) : Prop :=
  ∀ column ∈ relation.attributes, ∃ text : String, column.name = text

variable {relation : Relation}

theorem Named.hasCompoundName_eq_false (named : relation.Named) :
    relation.hasCompoundName = false := by
  refine List.any_eq_false.mpr fun column member => ?_
  obtain ⟨text, called⟩ := named column member
  rw [called]
  exact nofun

theorem Named.hasWritableNames (named : relation.Named) : relation.hasWritableNames = true := by
  refine List.all_eq_true.mpr fun column member => ?_
  obtain ⟨text, called⟩ := named column member
  rw [called]
  rfl

end Relation

/-- Over inputs whose attributes are called by texts, the output has texts for names. -/
theorem Estimates.named {operator : Operator Relation} {inputs : List Relation}
    {output : Relation} (estimates : Estimates operator inputs output)
    (below : ∀ input ∈ inputs, input.Named)
    (base : ∀ name base, operator = .scan name base → base.Named) : output.Named := by
  cases scanned : operator.base? with
  | some relation =>
      obtain ⟨name, rfl⟩ := Operator.exists_of_base?_eq_some scanned
      cases estimates with
      | scan => exact base name _ rfl
  | none =>
      intro column member
      obtain ⟨source, found, same, -⟩ := estimates.boundedIn scanned column member
      obtain ⟨input, listed, here⟩ := List.mem_flatMap.mp found
      rw [← same]
      exact below input listed source here

namespace Store

variable {store : Store}

/-- The output of a node and the relation that it scans call all attributes by texts, as far as it
has one or the other. -/
structure NamedAt (store : Store) (placed : PlacedOperator) : Prop where
  known : ∀ output, store.output? placed.ref = some output → (store.relation output).Named
  base : ∀ name base, placed.operator = .scan name base → (store.relation base).Named

mutual

theorem Means.named {node : Node} {output : Relation} (means : Means store node output)
    (named : ∀ placed ∈ node.preorder, store.NamedAt placed) : output.Named := by
  cases means with
  | known said =>
      cases node with
      | node placed inputs =>
          exact (named placed (Tree.mem_preorder_node.mpr (Or.inl rfl))).known _ said
  | @rule placed inputs outputs output unknown below estimates =>
      have own := named placed (Tree.mem_preorder_node.mpr (Or.inl rfl))
      refine estimates.named
        (MeansAll.named below fun input member other within =>
          named other (Tree.mem_preorder_node.mpr (Or.inr ⟨input, member, within⟩))) ?_
      obtain ⟨ref, operator⟩ := placed
      cases operator with
      | scan name base =>
          rintro _ _ ⟨⟩
          exact own.base name base rfl
      | _ => exact nofun

theorem MeansAll.named {nodes : List Node} {outputs : List Relation}
    (means : MeansAll store nodes outputs)
    (named : ∀ node ∈ nodes, ∀ placed ∈ node.preorder, store.NamedAt placed) :
    ∀ output ∈ outputs, output.Named := by
  cases means with
  | nil => exact nofun
  | cons first others =>
      obtain ⟨here, later⟩ := List.forall_mem_cons.mp named
      exact List.forall_mem_cons.mpr ⟨Means.named first here, MeansAll.named others later⟩

end

mutual

theorem Sound.outputs_named {start after : Store} (sound : Sound start after)
    (wellFormed : start.WellFormed) (node : Node) (stored : start.node? node.ref = some node)
    (named : ∀ placed ∈ node.preorder, start.NamedAt placed) :
    ∀ placed ∈ node.preorder, ∀ output, after.outputRelation? placed.ref = some output →
      output.Named := by
  cases node with
  | node placed inputs =>
      intro other member output shown
      rcases Tree.mem_preorder_node.mp member with rfl | ⟨input, listed, within⟩
      · obtain ⟨ref, said, rfl⟩ := Option.map_eq_some_iff.mp shown
        exact ((meaning_eq_ok_iff _ _).mp (sound.meaning_eq wellFormed stored said)).named named
      · have fits := wellFormed.nodes _ _ stored
        exact Sound.allOutputs_named sound wellFormed inputs fits.inputs
          (fun input listed other within =>
            named other (Tree.mem_preorder_node.mpr (Or.inr ⟨input, listed, within⟩)))
          input listed other within output shown

theorem Sound.allOutputs_named {start after : Store} (sound : Sound start after)
    (wellFormed : start.WellFormed) (nodes : List Node)
    (stored : ∀ node ∈ nodes, start.node? node.ref = some node)
    (named : ∀ node ∈ nodes, ∀ placed ∈ node.preorder, start.NamedAt placed) :
    ∀ node ∈ nodes, ∀ placed ∈ node.preorder, ∀ output,
      after.outputRelation? placed.ref = some output → output.Named := by
  cases nodes with
  | nil => exact nofun
  | cons node rest =>
      obtain ⟨storedHere, storedLater⟩ := List.forall_mem_cons.mp stored
      obtain ⟨namedHere, namedLater⟩ := List.forall_mem_cons.mp named
      exact List.forall_mem_cons.mpr
        ⟨Sound.outputs_named sound wellFormed node storedHere namedHere,
          Sound.allOutputs_named sound wellFormed rest storedLater namedLater⟩

end

theorem document?_plan {node : Node} (named : ∀ placed ∈ node.preorder, ∀ output,
    store.outputRelation? placed.ref = some output → output.Named) :
    (store.plan node).document? = some (store.plan node).document := by
  refine if_pos (List.all_eq_true.mpr fun node' member => ?_)
  rw [plan, Tree.preorder_map] at member
  obtain ⟨placed, within, rfl⟩ := List.mem_map.mp member
  refine (Option.all_eq_true _ _).mpr fun output shown => ?_
  exact (named placed within output shown).hasWritableNames

mutual

theorem preorder_of_mem_parts (node : Node) :
    ∀ part ∈ store.parts node, ∀ placed ∈ part.preorder, placed ∈ node.preorder := by
  cases node with
  | node placed inputs =>
      intro part member other within
      rw [parts] at member
      split at member
      · cases member
      · rcases List.mem_append.mp member with below | here
        · obtain ⟨input, listed, inside⟩ :=
            preorder_of_mem_partsOfAll inputs part below other within
          exact Tree.mem_preorder_node.mpr (Or.inr ⟨input, listed, inside⟩)
        · rw [List.mem_singleton.mp here] at within
          exact within

theorem preorder_of_mem_partsOfAll (nodes : List Node) :
    ∀ part ∈ store.partsOfAll nodes, ∀ placed ∈ part.preorder,
      ∃ node ∈ nodes, placed ∈ node.preorder := by
  cases nodes with
  | nil => exact fun part member => absurd member List.not_mem_nil
  | cons node rest =>
      intro part member other within
      rw [partsOfAll] at member
      rcases List.mem_append.mp member with first | later
      · exact ⟨node, List.mem_cons_self, preorder_of_mem_parts node part first other within⟩
      · obtain ⟨another, listed, inside⟩ :=
          preorder_of_mem_partsOfAll rest part later other within
        exact ⟨another, List.mem_cons_of_mem node listed, inside⟩

end

/-- If all names are texts, an estimation ends only where an attribute is missing or a count has too
many digits to be written. -/
theorem estimateNode_fault_of_named (wellFormed : store.WellFormed) {node : Node}
    (stored : store.node? node.ref = some node) (unknown : store.output? node.ref = none)
    (rules : ∀ placed ∈ node.preorder, placed.operator.hasRule = true)
    (named : ∀ placed ∈ node.preorder, store.NamedAt placed) {fault : EstimateFault}
    (failed : (store.estimateNode node).fault = some fault) :
    (∃ missing, fault = .missingAttribute missing) ∨ fault = .unwritable := by
  have ruled : ∀ part ∈ store.parts node, part.operator.hasRule = true := by
    intro part member
    cases part with
    | node placed inputs =>
        exact rules placed (preorder_of_mem_parts node _ member placed
          (Tree.mem_preorder_node.mpr (Or.inl rfl)))
  rcases estimateNode_settles wellFormed stored unknown ruled with
    ⟨quiet, -⟩ | ⟨earlier, part, later, stop, order, -, stops, told⟩
  · rw [quiet] at failed
    cases failed
  · rw [failed] at told
    cases told
    have member : part ∈ store.parts node := by
      rw [order]
      exact List.mem_append_right _ List.mem_cons_self
    cases part with
    | node placed inputs =>
        have pending := unknown_of_mem_parts node _ member
        obtain ⟨outputs, below, stops, -⟩ := stops
        cases stops with
        | missing => exact Or.inl ⟨_, rfl⟩
        | untold => exact Or.inr rfl
        | unwritable => exact Or.inr rfl
        | compoundName estimates condition compound =>
            have means : Means store (.node placed inputs) _ := .rule pending below estimates
            rw [(means.named fun other within => named other
              (preorder_of_mem_parts node _ member other within)).hasCompoundName_eq_false]
              at compound
            cases compound

end Store

namespace Query

/-- An operator has a rule, and if it is a scan it is one of the given scans. -/
structure Covered (scans : List (BaseScan RelationRef)) (placed : PlacedOperator) : Prop where
  rule : placed.operator.hasRule = true
  scan : ∀ name base, placed.operator = .scan name base → ∃ scan ∈ scans, scan.base = base

/-- All operators of a canonical plan have rules, and all scans are among its parts. -/
theorem Canonical.covered {root : Node} {plan : CanonicalPlan RelationRef}
    (canonical : Canonical root plan) :
    ∀ placed ∈ root.preorder, Covered plan.scans placed := by
  intro placed member
  obtain ⟨ref, operator⟩ := placed
  cases canonical.parts _ member with
  | scan listed =>
      refine ⟨rfl, ?_⟩
      rintro _ _ ⟨⟩
      exact ⟨_, listed, rfl⟩
  | @select condition listed => cases condition <;> exact ⟨rfl, nofun⟩
  | _ => exact ⟨rfl, nofun⟩

end Query

end Selectivity
