import Selectivity.Plan.Outline
import Selectivity.Proofs.Plan.Captions
import Selectivity.Proofs.Plan.Places

/-!
# The lines of an outline

A plan has an outline if the outputs that are known can be told. The outline has one line for each
node of the plan, in pre-order. The indentation of a line tells the depth of its node, so that the
tree can be told from the outline as long as each node can be told from its line. That is the case
for plans over the five kinds of operators, without outputs and with words for all names and
literals.
-/

namespace Selectivity

/-- The text holds no line feed. -/
def OneLine (text : String) : Prop :=
  '\n' ∉ text.toList

instance (text : String) : Decidable (OneLine text) :=
  inferInstanceAs (Decidable ('\n' ∉ text.toList))

theorem OneLine.append {first second : String} (here : OneLine first) (there : OneLine second) :
    OneLine (first ++ second) := by
  rw [OneLine, String.toList_append, List.mem_append, not_or]
  exact ⟨here, there⟩

theorem OneLine.intercalate {separator : String} {texts : List String}
    (between : OneLine separator) (all : ∀ text ∈ texts, OneLine text) :
    OneLine (separator.intercalate texts) := by
  intro member
  rcases Text.mem_intercalate member with mark | ⟨text, within, here⟩
  · exact between mark
  · exact all text within here

theorem oneLine_natural (number : Nat) : OneLine (toString number) := by
  intro member
  have digits : '\n' ∈ Nat.toDigits 10 number := Nat.toList_repr ▸ member
  exact absurd (Nat.isDigit_of_mem_toDigits (by decide) (by decide) digits) (by decide)

theorem Operator.oneLine_caption {Base : Type} {operator : Operator Base}
    (free : ∀ text ∈ operator.texts, OneLine text) : OneLine operator.caption := by
  intro member
  rcases mem_caption member with mark | ⟨text, within, here⟩
  · exact absurd mark (by decide)
  · exact free text within here

theorem Relation.oneLine_render {relation : Relation}
    (free : ∀ column ∈ relation.attributes, OneLine column.name.display) :
    OneLine relation.render := by
  have columns : ∀ text ∈ relation.attributes.map Attribute.render, OneLine text := by
    intro text member
    obtain ⟨column, listed, rfl⟩ := List.mem_map.mp member
    have colon : OneLine ":" := by decide
    exact ((free column listed).append colon).append (oneLine_natural column.valueCount)
  have opening : OneLine "[" := by decide
  have comma : OneLine ", " := by decide
  have closing : OneLine "] (" := by decide
  have tuples : OneLine " tuples)" := by decide
  exact (opening.append (comma.intercalate columns)).append
    ((closing.append (oneLine_natural relation.tupleCount)).append tuples)

namespace Plan

/-- The line of a node at a depth: two blanks for every step down, an arrow below the root, what the
node does and, if that is known, what it puts out. -/
def line : Nat × PlanNode → String
  | (depth, node) =>
      String.ofList (List.replicate (2 * depth) ' ') ++ (if 0 < depth then "<- " else "") ++
        node.operator.caption ++
        match node.output with
        | none => ""
        | some output => " :: " ++ output.render

/-- The output of the node can be told, if it is known. -/
def isTold (node : PlanNode) : Bool :=
  node.output.all Relation.isWritable

/-- The line of a node at a depth, if its output can be told. -/
def line? (level : Nat × PlanNode) : Option String :=
  (headline? level.2).map (margin (2 * level.1) ++ ·)

theorem line?_eq (level : Nat × PlanNode) :
    line? level = if isTold level.2 then some (line level) else none := by
  obtain ⟨depth, operator, output⟩ := level
  have arrow : margin (2 * depth) =
      String.ofList (List.replicate (2 * depth) ' ') ++ if 0 < depth then "<- " else "" := by
    cases depth with
    | zero => rfl
    | succ depth => rfl
  rw [line?, headline?, line, isTold, arrow]
  cases output with
  | none => rw [String.append_empty, Option.all_none, if_pos rfl, Option.map_some]
  | some output =>
      simp only [Relation.render?, Option.all_some]
      by_cases writable : output.isWritable = true
      · simp only [if_pos writable, Option.map_some, String.append_assoc]
      · simp only [if_neg writable, Option.map_none]

/-- The names and literals of a node, and the names of the attributes that it puts out. -/
def nodeTexts (node : PlanNode) : List String :=
  node.operator.texts ++
    match node.output with
    | none => []
    | some output => output.attributes.map fun column => column.name.display

theorem oneLine_line (depth : Nat) {node : PlanNode}
    (free : ∀ text ∈ nodeTexts node, OneLine text) : OneLine (line (depth, node)) := by
  obtain ⟨operator, output⟩ := node
  have blanks : OneLine (String.ofList (List.replicate (2 * depth) ' ')) := by
    rw [OneLine, String.toList_ofList, List.mem_replicate]
    exact fun blank => absurd blank.2 (by decide)
  have arrow : OneLine (if 0 < depth then "<- " else "") := by split <;> decide
  have caption : OneLine operator.caption :=
    Operator.oneLine_caption fun text member => free text (List.mem_append_left _ member)
  refine ((blanks.append arrow).append caption).append ?_
  cases output with
  | none => exact (by decide : OneLine "")
  | some output =>
      have colons : OneLine " :: " := by decide
      refine colons.append (Relation.oneLine_render fun column member => ?_)
      exact free _ (List.mem_append_right _ (List.mem_map.mpr ⟨column, member, rfl⟩))

theorem intercalate_cons_intercalate {lines : List String} (nonempty : lines ≠ [])
    (others : List String) :
    String.intercalate "\n" (String.intercalate "\n" lines :: others) =
      String.intercalate "\n" (lines ++ others) := by
  by_cases none : others = []
  · rw [none, List.append_nil, String.intercalate_singleton]
  · rw [String.intercalate_cons_of_ne_nil none, String.intercalate_append_of_ne_nil nonempty none]

mutual

/-- An outline joins the lines of all nodes, however the outlines of the inputs are joined. -/
theorem outlineAt?_eq (depth : Nat) (plan : Plan) :
    outlineAt? (2 * depth) plan =
      ((plan.levelsAt depth).mapM line?).map (String.intercalate "\n") := by
  cases plan with
  | node node inputs =>
      rw [outlineAt?, Tree.levelsAt, List.mapM_cons, line?]
      cases headline? node with
      | none => rfl
      | some text =>
          have below := outlinesAt?_eq (depth + 1) (margin (2 * depth) ++ text) inputs
          rw [Nat.mul_add] at below
          cases outlines : outlinesAt? (2 * depth + 2) inputs with
          | none =>
              rw [outlines, Option.map_none, eq_comm, Option.map_eq_none_iff] at below
              rw [below]
              rfl
          | some texts =>
              rw [outlines, Option.map_some, eq_comm, Option.map_eq_some_iff] at below
              obtain ⟨lines, found, same⟩ := below
              rw [found]
              exact congrArg some same.symm

theorem outlinesAt?_eq (depth : Nat) (first : String) (plans : List Plan) :
    (outlinesAt? (2 * depth) plans).map (fun texts => String.intercalate "\n" (first :: texts)) =
      ((Tree.levelsOf depth plans).mapM line?).map
        fun lines => String.intercalate "\n" (first :: lines) := by
  cases plans with
  | nil =>
      rw [outlinesAt?, Tree.levelsOf]
      rfl
  | cons plan plans =>
      rw [outlinesAt?, Tree.levelsOf, List.mapM_append, outlineAt?_eq depth plan]
      cases here : (plan.levelsAt depth).mapM line? with
      | none => rfl
      | some lines =>
          have nonempty : lines ≠ [] := by
            rw [mapM_of_ite line?_eq] at here
            split at here
            · cases here
              exact fun none => plan.levelsAt_ne_nil depth (List.map_eq_nil_iff.mp none)
            · cases here
          have joined := outlinesAt?_eq depth (String.intercalate "\n" lines) plans
          cases outlines : outlinesAt? (2 * depth) plans with
          | none =>
              rw [outlines, Option.map_none, eq_comm, Option.map_eq_none_iff] at joined
              rw [joined]
              rfl
          | some texts =>
              rw [outlines, Option.map_some, eq_comm, Option.map_eq_some_iff] at joined
              obtain ⟨more, found, same⟩ := joined
              have several : lines ++ more ≠ [] := List.append_ne_nil_of_left_ne_nil nonempty more
              have whole : String.intercalate "\n"
                  (first :: String.intercalate "\n" lines :: texts) =
                    String.intercalate "\n" (first :: (lines ++ more)) := by
                rw [String.intercalate_cons_cons, ← same, intercalate_cons_intercalate nonempty,
                  String.intercalate_cons_of_ne_nil several]
              rw [found]
              exact congrArg some whole

end

/-- There is an outline exactly if all outputs can be told, and it joins the lines of all nodes. -/
theorem outline?_eq (plan : Plan) :
    plan.outline? = if plan.preorder.all isTold then
      some (String.intercalate "\n" ((plan.levelsAt 0).map line)) else none := by
  have told : (plan.levelsAt 0).all (fun level => isTold level.2) = plan.preorder.all isTold := by
    rw [← Tree.levelsAt_preorder 0 plan, List.all_map]
    rfl
  rw [outline?, show 0 = 2 * 0 from rfl, outlineAt?_eq, mapM_of_ite line?_eq, told]
  split <;> rfl

theorem isSome_outline? (plan : Plan) :
    plan.outline?.isSome = true ↔ ∀ node ∈ plan.preorder, ∀ output,
      node.output = some output → output.isWritable = true := by
  have told : plan.outline?.isSome = plan.preorder.all isTold := by
    rw [outline?_eq]
    cases plan.preorder.all isTold <;> rfl
  rw [told, List.all_eq_true]
  exact forall₂_congr fun node _ => Option.all_eq_true _ _

theorem mem_preorder_of_mem_levels {plan : Plan} {level : Nat × PlanNode}
    (member : level ∈ plan.levelsAt 0) : level.2 ∈ plan.preorder := by
  rw [← Tree.levelsAt_preorder 0 plan]
  exact List.mem_map_of_mem member

theorem splitAt_of_outline? {plan : Plan} {text : String} (told : plan.outline? = some text)
    (free : ∀ node ∈ plan.preorder, ∀ text ∈ nodeTexts node, OneLine text) :
    Text.splitAt '\n' text.toList = ((plan.levelsAt 0).map line).map String.toList := by
  have nonempty : ((plan.levelsAt 0).map line).map String.toList ≠ [] := by
    rw [List.map_map]
    exact fun none => plan.levelsAt_ne_nil 0 (List.map_eq_nil_iff.mp none)
  have lines : ∀ text ∈ ((plan.levelsAt 0).map line).map String.toList, '\n' ∉ text := by
    intro text member
    rw [List.map_map] at member
    obtain ⟨level, listed, rfl⟩ := List.mem_map.mp member
    exact oneLine_line level.1 (free level.2 (mem_preorder_of_mem_levels listed))
  rw [outline?_eq] at told
  split at told
  · cases told
    rw [String.toList_intercalate, Text.splitAt_eq_splitOn]
    exact List.splitOn_intercalate '\n' lines nonempty
  · cases told

/-- What can be told from a line: the depth of the node and what its operator does. -/
def bareLevel (level : Nat × PlanNode) : Nat × Operator Unit :=
  (level.1, level.2.operator.bare)

/-- A node of one of the five kinds, without output and with words for its names and literals. -/
structure WordNode (node : PlanNode) : Prop where
  unknown : node.output = none
  native : node.operator.isNative = true
  texts : ∀ text ∈ node.operator.texts, Query.Word text

instance (node : PlanNode) : Decidable (WordNode node) :=
  decidable_of_iff (node.output = none ∧ node.operator.isNative = true ∧
      ∀ text ∈ node.operator.texts, Query.Word text)
    ⟨fun ⟨unknown, native, texts⟩ => ⟨unknown, native, texts⟩,
      fun words => ⟨words.unknown, words.native, words.texts⟩⟩

theorem replicate_append_injective {count other : Nat} {first second : Char}
    {rest further : List Char} (stops : first ≠ ' ') (otherStops : second ≠ ' ')
    (same : List.replicate count ' ' ++ first :: rest =
      List.replicate other ' ' ++ second :: further) :
    count = other ∧ first :: rest = second :: further := by
  induction count generalizing other with
  | zero =>
      cases other with
      | zero => exact ⟨rfl, same⟩
      | succ other => exact absurd (List.cons.inj same).1 stops
  | succ count induction =>
      cases other with
      | zero => exact absurd (List.cons.inj same).1.symm otherStops
      | succ other =>
          obtain ⟨rfl, behind⟩ := induction (List.cons.inj same).2
          exact ⟨rfl, behind⟩

theorem WordNode.line_eq {node : PlanNode} (words : WordNode node) (depth : Nat) :
    (line (depth, node)).toList = List.replicate (2 * depth) ' ' ++
      (if 0 < depth then "<- " else "").toList ++ node.operator.caption.toList := by
  rw [line, words.unknown, String.append_empty, String.toList_append, String.toList_append,
    String.toList_ofList]

theorem WordNode.exists_start {node : PlanNode} (words : WordNode node) (depth : Nat) :
    ∃ first rest, (if 0 < depth then "<- " else "").toList ++ node.operator.caption.toList =
      first :: rest ∧ first ≠ ' ' := by
  cases depth with
  | zero => exact Operator.exists_caption_start words.texts
  | succ depth =>
      rw [if_pos (Nat.succ_pos depth)]
      exact ⟨'<', _, rfl, by decide⟩

theorem WordNode.line_eq_iff {level other : Nat × PlanNode} (words : WordNode level.2)
    (otherWords : WordNode other.2) :
    line level = line other ↔ bareLevel level = bareLevel other := by
  obtain ⟨depth, node⟩ := level
  obtain ⟨height, further⟩ := other
  rw [← String.toList_inj, words.line_eq, otherWords.line_eq, bareLevel, bareLevel, Prod.mk.injEq]
  constructor
  · intro same
    obtain ⟨first, rest, start, stops⟩ := words.exists_start depth
    obtain ⟨second, behind, otherStart, otherStops⟩ := otherWords.exists_start height
    rw [List.append_assoc, List.append_assoc, start, otherStart] at same
    obtain ⟨depths, rests⟩ := replicate_append_injective stops otherStops same
    obtain rfl : depth = height := by omega
    rw [← start, ← otherStart] at rests
    exact ⟨rfl, Operator.bare_eq_of_caption_eq words.native otherWords.native words.texts
      otherWords.texts (String.toList_inj.mp (List.append_cancel_left rests))⟩
  · rintro ⟨rfl, same⟩
    have captions : node.operator.caption = further.operator.caption := by
      rw [← Operator.caption_bare, same, Operator.caption_bare]
    rw [captions]

/-- Two functions that tell the same elements of two lists apart tell the same lists apart. -/
theorem map_eq_map_iff_of_eq_iff {α β γ : Type} {first : α → β} {second : α → γ}
    {items others : List α}
    (agree : ∀ item ∈ items, ∀ other ∈ others,
      first item = first other ↔ second item = second other) :
    items.map first = others.map first ↔ items.map second = others.map second := by
  induction items generalizing others with
  | nil => cases others <;> simp
  | cons item items induction =>
      cases others with
      | nil => simp
      | cons other others =>
          rw [List.map_cons, List.map_cons, List.map_cons, List.map_cons, List.cons.injEq,
            List.cons.injEq, agree item List.mem_cons_self other List.mem_cons_self,
            induction fun one within another listed => agree one (List.mem_cons_of_mem item within)
              another (List.mem_cons_of_mem other listed)]

theorem WordNode.oneLine {node : PlanNode} (words : WordNode node) :
    ∀ text ∈ nodeTexts node, OneLine text := by
  intro text member
  rw [nodeTexts, words.unknown, List.append_nil] at member
  exact Text.not_mem_of_isWord (words.texts text member) (by decide)

theorem isTold_of_words {plan : Plan} (words : ∀ node ∈ plan.preorder, WordNode node) :
    plan.preorder.all isTold = true := by
  refine List.all_eq_true.mpr fun node member => ?_
  rw [isTold, (words node member).unknown, Option.all_none]

theorem outline?_of_words {plan : Plan} (words : ∀ node ∈ plan.preorder, WordNode node) :
    plan.outline? = some plan.outline := by
  rw [outline, outline?_eq, if_pos (isTold_of_words words), Option.getD_some]

/-- The outline tells the plan: over operators of the five kinds, without outputs and with words for
all names and literals, two plans have one outline exactly if they are the same. -/
theorem outline_tells_plan {left right : Plan} (words : ∀ node ∈ left.preorder, WordNode node)
    (otherWords : ∀ node ∈ right.preorder, WordNode node) :
    left.outline = right.outline ↔ left.sameAs right = true := by
  have levels (plan : Plan) : plan.bare.levelsAt 0 = (plan.levelsAt 0).map bareLevel :=
    Tree.levelsAt_map _ 0 plan
  have lines : left.outline = right.outline ↔
      (left.levelsAt 0).map line = (right.levelsAt 0).map line := by
    constructor
    · intro same
      have cut := splitAt_of_outline? (outline?_of_words words) fun node member =>
        (words node member).oneLine
      rw [same, splitAt_of_outline? (outline?_of_words otherWords) fun node member =>
        (otherWords node member).oneLine] at cut
      exact ((List.map_inj_right fun _ _ => String.toList_inj.mp).mp cut).symm
    · intro same
      rw [outline, outline, outline?_eq, outline?_eq, isTold_of_words words,
        isTold_of_words otherWords, same]
  have agree : ∀ level ∈ left.levelsAt 0, ∀ other ∈ right.levelsAt 0,
      line level = line other ↔ bareLevel level = bareLevel other :=
    fun level member other listed => (words level.2 (mem_preorder_of_mem_levels member)).line_eq_iff
      (otherWords other.2 (mem_preorder_of_mem_levels listed))
  rw [lines, map_eq_map_iff_of_eq_iff agree, ← levels, ← levels, sameAs_iff]
  exact (Tree.levelsAt_injective 0).eq_iff

/-- Three scans that are multiplied from the right or from the left. One of the names is the sign of
projections. -/
def productOfScans (fromRight : Bool) : Plan :=
  let scan (name : String) : Plan := apply (.scan name ⟨1, []⟩) []
  if fromRight then apply .product [scan "π", apply .product [scan "R", scan "S"]]
  else apply .product [apply .product [scan "π", scan "R"], scan "S"]

theorem outline_tells_productOfScans :
    (∀ node ∈ (productOfScans true).preorder, WordNode node) ∧
      (∀ node ∈ (productOfScans false).preorder, WordNode node) ∧
      (productOfScans true).outline ≠ (productOfScans false).outline := by
  have words : ∀ node ∈ (productOfScans true).preorder, WordNode node := by decide +kernel
  have otherWords : ∀ node ∈ (productOfScans false).preorder, WordNode node := by decide +kernel
  have different : ¬ (productOfScans true).sameAs (productOfScans false) = true := by decide
  exact ⟨words, otherWords, fun same => different ((outline_tells_plan words otherWords).mp same)⟩

end Plan

end Selectivity
