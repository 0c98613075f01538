import Selectivity.Plan.Document
import Selectivity.Proofs.Catalog.Documents
import Selectivity.Proofs.Estimation.Labels
import Selectivity.Proofs.Json.Rendering
import Selectivity.Proofs.Plan.Equality

/-!
# Documents of plans

The text that is written for a plan tells the plan and the outputs of its nodes: two plans have one
text exactly if they are the same and their outputs agree, node by node. So nothing that counts is
lost, and nothing else is told.
-/

namespace Selectivity

open Json

/-- Values without numbers that are not whole have one text only if they are equal. -/
theorem Json.Exact.render_eq_iff {left right : Json} (leftExact : Exact none left)
    (rightExact : Exact none right) (layout : Layout) :
    left.render layout = right.render layout ↔ left = right := by
  constructor
  · intro same
    -- What is written is read back, so one text cannot stand for two values.
    have one := (leftExact.writesFile layout).read
    have other := (rightExact.writesFile layout).read
    rw [same, other] at one
    exact (Except.ok.inj one).symm
  · exact congrArg (render layout)

theorem Attribute.document_eq_iff {left right : Attribute} {text other : String}
    (called : left.name = text) (named : right.name = other) :
    left.document = right.document ↔ left.agrees right = true := by
  obtain ⟨leftName, leftCount, leftPositive⟩ := left
  obtain ⟨rightName, rightCount, rightPositive⟩ := right
  cases called
  cases named
  simp only [document, agrees, Label.agrees, Json.agrees, isNoNumber, key, object.injEq,
    List.cons.injEq, Prod.mk.injEq, string.injEq, integer.injEq, Int.natCast_inj, Bool.and_eq_true,
    Bool.not_false, beq_iff_eq, true_and, and_true, Bool.true_and]

theorem Attribute.documents_eq_iff {lefts rights : List Attribute}
    (called : ∀ column ∈ lefts, ∃ text : String, column.name = text)
    (named : ∀ column ∈ rights, ∃ text : String, column.name = text) :
    lefts.map Attribute.document = rights.map Attribute.document ↔
      lefts.isEqv rights Attribute.agrees = true := by
  induction lefts generalizing rights with
  | nil => cases rights <;> simp [List.isEqv]
  | cons left rest induction =>
      cases rights with
      | nil => simp [List.isEqv]
      | cons right others =>
          obtain ⟨text, here⟩ := called left List.mem_cons_self
          obtain ⟨other, there⟩ := named right List.mem_cons_self
          have later := induction
            (fun column member => called column (List.mem_cons_of_mem _ member))
            fun column member => named column (List.mem_cons_of_mem _ member)
          rw [List.map_cons, List.map_cons, List.cons.injEq, Attribute.document_eq_iff here there,
            later, List.isEqv, Bool.and_eq_true]

theorem Relation.Named.document_eq_iff {left right : Relation} (leftNamed : left.Named)
    (rightNamed : right.Named) : left.document = right.document ↔ left.agrees right = true := by
  have columns := Attribute.documents_eq_iff leftNamed rightNamed
  simp only [Relation.document, Relation.agrees, Json.object.injEq, List.cons.injEq, Prod.mk.injEq,
    Json.integer.injEq, Json.array.injEq, columns, Bool.and_eq_true, beq_iff_eq, Int.natCast_inj,
    true_and, and_true]

/-- The outputs of two nodes are both missing, or they agree. -/
def PlanNode.OutputsAgree (left right : PlanNode) : Prop :=
  Option.Rel (fun one other => one.agrees other = true) left.output right.output

/-- The node is of one of the five kinds, and its output calls all attributes by texts. -/
structure PlanNode.Plain (node : PlanNode) : Prop where
  native : node.operator.isNative = true
  named : ∀ output, node.output = some output → output.Named

theorem PlanNode.Plain.output_eq_iff {left right : PlanNode} (leftPlain : left.Plain)
    (rightPlain : right.Plain) :
    optionalDocument Relation.document left.output =
        optionalDocument Relation.document right.output ↔ left.OutputsAgree right := by
  rw [PlanNode.OutputsAgree]
  cases here : left.output with
  | none =>
      cases there : right.output with
      | none => exact iff_of_true rfl .none
      | some other => exact iff_of_false nofun nofun
  | some output =>
      cases there : right.output with
      | none => exact iff_of_false nofun nofun
      | some other =>
          have same := (leftPlain.named output here).document_eq_iff (rightPlain.named other there)
          refine same.trans ⟨fun agrees => .some agrees, fun agree => ?_⟩
          cases agree with
          | some agrees => exact agrees

theorem Comparison.document_injective {one other : Comparison}
    (same : one.document = other.document) : one = other := by
  cases one
  cases other
  cases same
  rfl

theorem Predicate.document_injective {one other : Predicate}
    (same : one.document = other.document) : one = other := by
  cases one with
  | equalsValue column value =>
      cases other with
      | equalsValue column value =>
          cases same
          rfl
      | equalsAttribute comparison =>
          have types := (Prod.mk.inj (List.cons.inj (Json.object.inj same)).1).2
          exact absurd types (by decide)
  | equalsAttribute comparison =>
      cases other with
      | equalsValue column value =>
          have types := (Prod.mk.inj (List.cons.inj (Json.object.inj same)).1).2
          exact absurd types (by decide)
      | equalsAttribute other => rw [Comparison.document_injective same]

theorem Predicate.optionalDocument_injective {one other : Option Predicate}
    (same : optionalDocument document one = optionalDocument document other) : one = other := by
  cases one with
  | none =>
      cases other with
      | none => rfl
      | some condition => cases condition <;> cases same
  | some condition =>
      cases other with
      | none => cases condition <;> cases same
      | some another => rw [Predicate.document_injective same]

namespace Operator

variable {Base Other : Type}

theorem members_bare (operator : Operator Base) : operator.bare.members = operator.members := by
  cases operator <;> rfl

theorem kind_bare (operator : Operator Base) : operator.bare.kind = operator.kind := by
  cases operator <;> rfl

theorem bare_eq_of_members_eq {left : Operator Base} {right : Operator Other}
    (leftNative : left.isNative = true) (rightNative : right.isNative = true)
    (kinds : left.kind = right.kind) (members : left.members = right.members) :
    left.bare = right.bare := by
  cases sameKind_of_kind_eq leftNative rightNative kinds with
  | scans name other base held =>
      cases members
      rfl
  | projections attributes others =>
      have texts := Json.array.inj (Prod.mk.inj (List.cons.inj members).1).2
      have names := (List.map_inj_right fun _ _ same => Json.string.inj same).mp texts
      exact congrArg Operator.project names
  | selections condition other =>
      have documents := (Prod.mk.inj (List.cons.inj members).1).2
      exact congrArg Operator.select (Predicate.optionalDocument_injective documents)
  | products => rfl
  | joins condition other =>
      have documents := (Prod.mk.inj (List.cons.inj members).1).2
      exact congrArg Operator.join (Comparison.document_injective documents)

end Operator

namespace PlanNode

/-- The document of a node over inputs with these documents. -/
def document (node : PlanNode) (below : List Json) : Json :=
  .object ([("node_type", .string node.operator.kind),
    ("output", optionalDocument Relation.document node.output),
    ("children", .array below)] ++ node.operator.members)

theorem Plain.document_eq_iff {left right : PlanNode} (leftPlain : left.Plain)
    (rightPlain : right.Plain) (below others : List Json) :
    left.document below = right.document others ↔
      (left.operator.bare = right.operator.bare ∧ left.OutputsAgree right) ∧ below = others := by
  constructor
  · intro same
    obtain ⟨kinds, afterKind⟩ := List.cons.inj (Json.object.inj same)
    obtain ⟨outputs, afterOutput⟩ := List.cons.inj afterKind
    obtain ⟨inputs, members⟩ := List.cons.inj afterOutput
    have work := Operator.bare_eq_of_members_eq leftPlain.native rightPlain.native
      (Json.string.inj (Prod.mk.inj kinds).2) members
    exact ⟨⟨work, (leftPlain.output_eq_iff rightPlain).mp (Prod.mk.inj outputs).2⟩,
      Json.array.inj (Prod.mk.inj inputs).2⟩
  · rintro ⟨⟨work, outputs⟩, rfl⟩
    rw [document, document, (leftPlain.output_eq_iff rightPlain).mpr outputs,
      ← Operator.kind_bare, ← Operator.members_bare, work, Operator.kind_bare,
      Operator.members_bare]

end PlanNode

namespace Plan

/-- All nodes are of the five kinds, and all outputs call their attributes by texts. -/
def Plain (plan : Plan) : Prop :=
  ∀ node ∈ plan.preorder, node.Plain

theorem Plain.below {node : PlanNode} {inputs : List Plan} (plain : Plain (.node node inputs)) :
    ∀ input ∈ inputs, Plain input :=
  fun input member other within =>
    plain other (Tree.mem_preorder_node.mpr (Or.inr ⟨input, member, within⟩))

theorem Plain.root {node : PlanNode} {inputs : List Plan} (plain : Plain (.node node inputs)) :
    node.Plain :=
  plain node (Tree.mem_preorder_node.mpr (Or.inl rfl))

/-- Plans have one document exactly if they are the same and their outputs agree. -/
theorem Plain.document_eq_iff {left right : Plan} (leftPlain : left.Plain)
    (rightPlain : right.Plain) :
    left.document = right.document ↔
      left.sameAs right = true ∧ Tree.Alike PlanNode.OutputsAgree left right := by
  rw [sameAs_iff, Plan.bare, Tree.map_eq_iff_alike]
  constructor
  · intro same
    have telling : Tree.Telling PlanNode.document
        (fun one other => one.operator.bare = other.operator.bare ∧ one.OutputsAgree other)
        Plain :=
      ⟨fun _ _ => Plain.below, fun _ _ _ _ here there same =>
        (here.root.document_eq_iff there.root _ _).mp same⟩
    have alike := telling.alike left right leftPlain rightPlain same
    exact ⟨alike.imp fun _ _ _ _ both => both.1, alike.imp fun _ _ _ _ both => both.2⟩
  · rintro ⟨work, outputs⟩
    have documents : Tree.Alike
        (fun one other => ∀ below, one.document below = other.document below) left right := by
      refine (work.and outputs).imp fun one here other there both below => ?_
      exact ((leftPlain one here).document_eq_iff (rightPlain other there) below below).mpr
        ⟨both, rfl⟩
    exact documents.fold_eq fun _ _ same => same

end Plan

theorem exact_strings (limit : Option Nat) (texts : List String) :
    Exact limit (.array (texts.map Json.string)) := by
  refine .array fun item member => ?_
  obtain ⟨text, -, rfl⟩ := List.mem_map.mp member
  exact .string text

theorem Relation.Named.exact_document {relation : Relation} (named : relation.Named) :
    Exact none relation.document :=
  Catalog.exact_of_relation named rfl fun _ _ => rfl

theorem Predicate.exact_document (condition : Predicate) : Exact none condition.document := by
  cases condition with
  | equalsValue column value =>
      refine .object (show (["type", "attribute", "value"] : List String).Nodup by decide) ?_
      simp [Exact.string]
  | equalsAttribute comparison =>
      refine .object (show (["type", "left", "right"] : List String).Nodup by decide) ?_
      simp [Exact.string]

theorem exact_optionalDocument {α : Type} {document : α → Json} {value : Option α}
    (exact : ∀ known, value = some known → Exact none (document known)) :
    Exact none (optionalDocument document value) := by
  cases value with
  | none => exact .null
  | some known => exact exact known rfl

theorem Operator.exact_members {Base : Type} (operator : Operator Base) :
    ∀ member ∈ operator.members, Exact none member.2 := by
  cases operator with
  | scan name base => exact List.forall_mem_singleton.mpr (.string name)
  | project attributes => exact List.forall_mem_singleton.mpr (exact_strings none attributes)
  | select condition =>
      exact List.forall_mem_singleton.mpr
        (exact_optionalDocument fun known _ => known.exact_document)
  | product => exact nofun
  | join condition =>
      exact List.forall_mem_singleton.mpr (Predicate.exact_document (.equalsAttribute condition))
  | «foreign» kind => exact nofun

theorem Operator.distinct_members {Base : Type} (operator : Operator Base) :
    (["node_type", "output", "children"] ++ Entries.names operator.members).Nodup := by
  cases operator <;> simp [members, Entries.names]

theorem PlanNode.Plain.exact_document {node : PlanNode} (plain : node.Plain) {below : List Json}
    (each : ∀ document ∈ below, Exact none document) : Exact none (node.document below) := by
  have output : Exact none (optionalDocument Relation.document node.output) :=
    exact_optionalDocument fun known here => (plain.named known here).exact_document
  refine .object node.operator.distinct_members
    (List.forall_mem_append.mpr ⟨?_, node.operator.exact_members⟩)
  exact List.forall_mem_cons.mpr ⟨.string node.operator.kind,
    List.forall_mem_cons.mpr ⟨output, List.forall_mem_singleton.mpr (.array each)⟩⟩

namespace Plan

mutual

theorem Plain.exact_document {plan : Plan} (plain : plan.Plain) : Exact none plan.document := by
  cases plan with
  | node node inputs =>
      rw [document, Tree.fold_node]
      exact plain.root.exact_document (Plain.exact_documents plain.below)

theorem Plain.exact_documents {plans : List Plan} (plain : ∀ plan ∈ plans, Plain plan) :
    ∀ written ∈ plans.map document, Exact none written := by
  cases plans with
  | nil => exact nofun
  | cons plan rest =>
      rw [List.map_cons]
      exact List.forall_mem_cons.mpr ⟨Plain.exact_document (plain plan List.mem_cons_self),
        Plain.exact_documents fun other member => plain other (List.mem_cons_of_mem plan member)⟩

end

theorem Plain.document?_eq {plan : Plan} (plain : plan.Plain) :
    plan.document? = some plan.document := by
  refine if_pos (List.all_eq_true.mpr fun node member => ?_)
  cases here : node.output with
  | none => rfl
  | some output => exact ((plain node member).named output here).hasWritableNames

/-- Plans have one text exactly if they are the same and their outputs agree, node by node. -/
theorem text_tells_plan {left right : Plan} (leftPlain : left.Plain) (rightPlain : right.Plain) :
    ∃ document other, left.document? = some document ∧ right.document? = some other ∧
      ∀ layout : Layout, document.render layout = other.render layout ↔
        left.sameAs right = true ∧ Tree.Alike PlanNode.OutputsAgree left right := by
  refine ⟨_, _, leftPlain.document?_eq, rightPlain.document?_eq, fun layout => ?_⟩
  rw [leftPlain.exact_document.render_eq_iff rightPlain.exact_document layout]
  exact leftPlain.document_eq_iff rightPlain

/-- A selection by a literal that is a quotation mark, with or without its output. -/
def quotedSelection (output : Option Relation) : Plan :=
  .node ⟨.select (some (.equalsValue "a" "\"")), output⟩
    [.node ⟨.scan "R" ⟨12, [⟨"a", 6, by decide⟩]⟩, none⟩ []]

theorem text_tells_quotedSelection :
    let known := quotedSelection (some ⟨2, [⟨"a", 1, by decide⟩]⟩)
    let unknown := quotedSelection none
    known.Plain ∧ unknown.Plain ∧ known.sameAs unknown = true ∧
      ∃ document other, known.document? = some document ∧ unknown.document? = some other ∧
        ∀ layout : Layout, document.render layout ≠ other.render layout := by
  intro known unknown
  have plain : ∀ output : Option Relation, (∀ relation, output = some relation → relation.Named) →
      (quotedSelection output).Plain := by
    intro output named
    exact List.forall_mem_cons.mpr ⟨⟨rfl, named⟩, List.forall_mem_singleton.mpr ⟨rfl, nofun⟩⟩
  have knownPlain : known.Plain := by
    refine plain _ fun relation same => ?_
    cases same
    exact List.forall_mem_singleton.mpr ⟨"a", rfl⟩
  have unknownPlain : unknown.Plain := plain none nofun
  obtain ⟨document, other, here, there, told⟩ := text_tells_plan knownPlain unknownPlain
  refine ⟨knownPlain, unknownPlain, by decide, document, other, here, there, ?_⟩
  intro layout same
  obtain ⟨-, alike⟩ := (told layout).mp same
  cases alike.roots

end Plan

end Selectivity
