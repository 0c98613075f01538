import Selectivity.Proofs.Statistics.Rules

/-!
# Estimation with checks

Counts are natural numbers in this library, and a value count carries the proof that it is not
zero. Here each rule is carried out once more on integers, and nothing is taken for granted: a
divisor may be zero, every count that a new attribute or relation gets is offered to the check for
counts from outside, and a name that was found is looked up again. None of these checks ever
fails, so that the rule with checks is the rule without.
-/

namespace Selectivity

/-- Why an estimation with checks ends. -/
inductive CheckFault where
  | divisionByZero
  | statistic (fault : StatisticFault)
  /-- The node, given by its caption, has been estimated before. -/
  | alreadyEstimated (caption : String)
  /-- The output of the node, given by its caption, is already known. -/
  | outputKnown (caption : String)
  /-- The output of an input, given by its caption, is not known when it is needed. -/
  | outputMissing (caption : String)
  | estimate (fault : EstimateFault)
  deriving DecidableEq, Repr

theorem mapError_ok {Fault Other Value : Type} (image : Fault → Other) (value : Value) :
    (Except.ok value : Except Fault Value).mapError image = .ok value :=
  rfl

namespace Checked

/-- Division rounded down, with a look at the divisor. -/
def quotient (dividend divisor : Int) : Except CheckFault Int :=
  if divisor = 0 then .error .divisionByZero else .ok (dividend.fdiv divisor)

def newAttribute (name : Label) (count : Int) : Except CheckFault Attribute :=
  (Attribute.ofCount name count).mapError .statistic

def newRelation (tupleCount : Int) (attributes : List Attribute) : Except CheckFault Relation :=
  ((tupleCountOf tupleCount).mapError .statistic).map fun count => ⟨count, attributes⟩

/-- New attributes with the names and counts of others. -/
def copies (attributes : List Attribute) : Except CheckFault (List Attribute) :=
  attributes.mapM fun column => newAttribute column.name column.valueCount

/-- New attributes in place of others, those of the given names with one value count. -/
def overwrite (names : List Label) (count : Int) (attributes : List Attribute) :
    Except CheckFault (List Attribute) :=
  attributes.mapM fun column =>
    newAttribute column.name (if names.contains column.name then count else column.valueCount)

/-- The fault that attributes are missing. -/
def missing (names : List String) (inputs : List Relation) : CheckFault :=
  .estimate (.missing names inputs)

/-- The value count of the first attribute of a name, with a look whether there is one. -/
def valueCount (input : Relation) (name : String) : Except CheckFault Int :=
  match input.lookup? name with
  | some column => .ok column.valueCount
  | none => .error (missing [name] [input])

/-- A new relation whose tuples are divided and whose attributes of the given names get one value
count. -/
def recount (names : List Label) (tupleCount divisor count : Int) (attributes : List Attribute) :
    Except CheckFault Relation := do
  let tupleCount ← quotient tupleCount divisor
  let attributes ← overwrite names count attributes
  newRelation tupleCount attributes

def selectValue (input : Relation) (column : String) : Except CheckFault Relation :=
  if input.contains column then do
    let found ← valueCount input column
    recount [column] input.tupleCount found 1 input.attributes
  else .error (missing [column] [input])

def selectEqual (input : Relation) (condition : Comparison) : Except CheckFault Relation :=
  if input.contains condition.left && input.contains condition.right then do
    let left ← valueCount input condition.left
    let right ← valueCount input condition.right
    recount [condition.left, condition.right] input.tupleCount (max left right) (min left right)
      input.attributes
  else .error (missing [condition.left, condition.right] [input])

/-- The combinations of tuples that agree in an attribute of each side. -/
def joinOn (left right : Relation) (leftName rightName : String) : Except CheckFault Relation := do
  let leftCount ← valueCount left leftName
  let rightCount ← valueCount right rightName
  recount [leftName, rightName] (left.tupleCount * right.tupleCount) (max leftCount rightCount)
    (min leftCount rightCount) (left.attributes ++ right.attributes)

/-- An equi-join, with a look at the names before each of its three forms. -/
def join (left right : Relation) (condition : Comparison) : Except CheckFault Relation :=
  if left.contains condition.left && left.contains condition.right then
    selectEqual left condition
  else if left.contains condition.left && right.contains condition.right then
    joinOn left right condition.left condition.right
  else if left.contains condition.right && right.contains condition.left then
    joinOn left right condition.right condition.left
  else .error (missing [condition.left, condition.right] [left, right])

/-- What an operator makes of its inputs. -/
def rule (operator : Operator Relation) (inputs : List Relation) : Except CheckFault Relation :=
  match operator, inputs with
  | .scan _ base, [] => do newRelation base.tupleCount (← copies base.attributes)
  | .project kept, [input] => do
      newRelation input.tupleCount (← copies (input.project kept).attributes)
  | .select (some (.equalsValue column _)), [input] => selectValue input column
  | .select (some (.equalsAttribute condition)), [input] => selectEqual input condition
  | .product, inputs => do
      let tupleCount := inputs.foldr (fun input count => (input.tupleCount : Int) * count) 1
      newRelation tupleCount (← copies (inputs.flatMap Relation.attributes))
  | .join condition, [left, right] => join left right condition
  | operator, _ => .error (.estimate (.unknownOperator operator.kind))

/-- What an operator puts out: what it makes of its inputs, if that can be told. -/
def output (operator : Operator Relation) (inputs : List Relation) :
    Except CheckFault Relation := do
  let relation ← rule operator inputs
  if operator.hasCondition && relation.hasCompoundName then .error (.estimate .compoundName)
  else if relation.render?.isSome then .ok relation
  else .error (.estimate .unwritable)

theorem quotient_of_pos (dividend : Nat) {divisor : Nat} (positive : 0 < divisor) :
    quotient dividend divisor = .ok (dividend / divisor : Nat) := by
  have nonzero : (divisor : Int) ≠ 0 := Int.ofNat_ne_zero.mpr (Nat.ne_of_gt positive)
  rw [quotient, if_neg nonzero, Int.fdiv_eq_ediv_of_nonneg _ (Int.natCast_nonneg divisor)]
  rfl

theorem newAttribute_of_pos {name : Label} {count : Nat} (positive : 0 < count) :
    newAttribute name count = .ok ⟨name, count, positive⟩ := by
  have least : (1 : Int) ≤ count := Int.ofNat_le.mpr positive
  simp only [newAttribute, Attribute.ofCount, least, dif_pos, Int.toNat_natCast]
  rfl

theorem newRelation_natCast (tupleCount : Nat) (attributes : List Attribute) :
    newRelation tupleCount attributes = .ok ⟨tupleCount, attributes⟩ := by
  simp only [newRelation, tupleCountOf, Int.natCast_nonneg, if_pos, Int.toNat_natCast]
  rfl

theorem mapM_eq_ok {Fault Item Value : Type} {step : Item → Except Fault Value}
    {image : Item → Value} {items : List Item}
    (succeed : ∀ item ∈ items, step item = .ok (image item)) :
    items.mapM step = .ok (items.map image) := by
  induction items with
  | nil => rfl
  | cons item rest induction =>
      have first := succeed item List.mem_cons_self
      have others := induction fun other member => succeed other (List.mem_cons_of_mem item member)
      rw [List.mapM_cons, first, others]
      rfl

theorem copies_eq (attributes : List Attribute) : copies attributes = .ok attributes := by
  refine (mapM_eq_ok fun column _ => newAttribute_of_pos column.valueCount_pos).trans ?_
  exact congrArg Except.ok (List.map_id attributes)

theorem overwrite_eq (names : List Label) {count : Nat} (positive : 0 < count)
    (attributes : List Attribute) :
    overwrite names count attributes = .ok (overwriteCounts names count positive attributes) := by
  refine mapM_eq_ok fun column _ => ?_
  by_cases listed : names.contains column.name = true
  · rw [if_pos listed, if_pos listed, newAttribute_of_pos positive]
    rfl
  · rw [if_neg listed, if_neg listed, newAttribute_of_pos column.valueCount_pos]

theorem valueCount_of_lookup? {input : Relation} {name : String} {column : Attribute}
    (found : input.lookup? name = some column) : valueCount input name = .ok column.valueCount := by
  rw [valueCount, found]

theorem recount_eq (names : List Label) (tupleCount : Nat) {divisor count : Nat}
    (nonzero : 0 < divisor) (positive : 0 < count) (attributes : List Attribute) :
    recount names tupleCount divisor count attributes =
      .ok ⟨tupleCount / divisor, overwriteCounts names count positive attributes⟩ := by
  rw [recount, quotient_of_pos tupleCount nonzero, overwrite_eq names positive]
  exact newRelation_natCast _ _

/-- The same where the larger of two value counts divides and the smaller one is left. -/
theorem recount_max_min (names : List Label) (tupleCount : Nat) (first second : Attribute)
    (attributes : List Attribute) :
    recount names tupleCount (max (first.valueCount : Int) second.valueCount)
        (min (first.valueCount : Int) second.valueCount) attributes =
      .ok ⟨tupleCount / max first.valueCount second.valueCount,
        overwriteCounts names (min first.valueCount second.valueCount)
          (Nat.lt_min.mpr ⟨first.valueCount_pos, second.valueCount_pos⟩) attributes⟩ := by
  have larger : max (first.valueCount : Int) second.valueCount =
      (max first.valueCount second.valueCount : Nat) := by omega
  have smaller : min (first.valueCount : Int) second.valueCount =
      (min first.valueCount second.valueCount : Nat) := by omega
  rw [larger, smaller]
  exact recount_eq names tupleCount
    (Nat.lt_of_lt_of_le first.valueCount_pos (Nat.le_max_left _ _)) _ attributes

theorem contains_of_lookup? {input : Relation} {name : Label} {column : Attribute}
    (found : input.lookup? name = some column) : input.contains name = true := by
  rw [Relation.contains, found]
  rfl

theorem not_contains_of_lookup? {input : Relation} {name : Label}
    (absent : input.lookup? name = none) : input.contains name = false := by
  rw [Relation.contains, absent]
  rfl

theorem selectValue_eq (input : Relation) (name : String) :
    selectValue input name =
      (input.selectValue name).mapError .estimate := by
  cases found : input.lookup? name with
  | none =>
      rw [selectValue, not_contains_of_lookup? found, Relation.selectValue, found]
      rfl
  | some column =>
      rw [selectValue, if_pos (contains_of_lookup? found), valueCount_of_lookup? found,
        Relation.selectValue, found]
      exact recount_eq [(name : Label)] input.tupleCount column.valueCount_pos Nat.one_pos
        input.attributes

theorem selectEqual_eq (input : Relation) (condition : Comparison) :
    selectEqual input condition =
      (input.selectEqual condition).mapError .estimate := by
  cases left : input.lookup? condition.left with
  | none =>
      rw [selectEqual, not_contains_of_lookup? left, Relation.selectEqual, left]
      rfl
  | some first =>
      cases right : input.lookup? condition.right with
      | none =>
          rw [selectEqual, contains_of_lookup? left, not_contains_of_lookup? right,
            Relation.selectEqual, left, right]
          rfl
      | some second =>
          rw [selectEqual, contains_of_lookup? left, contains_of_lookup? right,
            valueCount_of_lookup? left, valueCount_of_lookup? right, Relation.selectEqual, left,
            right]
          exact recount_max_min [condition.left, condition.right] input.tupleCount first second
            input.attributes

theorem joinOn_eq {left right : Relation} {leftName rightName : String}
    {leftFound rightFound : Attribute} (here : left.lookup? leftName = some leftFound)
    (there : right.lookup? rightName = some rightFound) :
    joinOn left right leftName rightName = .ok (left.joinOn right leftFound rightFound) := by
  have leftNamed : leftFound.name = leftName := (Relation.lookup?_eq_some_iff.mp here).named
  have rightNamed : rightFound.name = rightName := (Relation.lookup?_eq_some_iff.mp there).named
  rw [joinOn, valueCount_of_lookup? here, valueCount_of_lookup? there, Relation.joinOn, leftNamed,
    rightNamed]
  exact recount_max_min [leftName, rightName] (left.tupleCount * right.tupleCount) leftFound
    rightFound (left.attributes ++ right.attributes)

theorem join_eq (left right : Relation) (condition : Comparison) :
    join left right condition =
      (left.join right condition).mapError .estimate := by
  cases here : left.lookup? condition.left with
  | none =>
      have lacks := not_contains_of_lookup? here
      cases there : left.lookup? condition.right with
      | none =>
          simp [join, Relation.join, lacks, not_contains_of_lookup? there, here, there]
          rfl
      | some second =>
          cases other : right.lookup? condition.left with
          | none =>
              simp [join, Relation.join, lacks, not_contains_of_lookup? other, here, there, other]
              rfl
          | some first =>
              simp [join, Relation.join, lacks, contains_of_lookup? there,
                contains_of_lookup? other, here, there, other, joinOn_eq there other]
              rfl
  | some first =>
      have provides := contains_of_lookup? here
      cases there : left.lookup? condition.right with
      | some second =>
          have both := contains_of_lookup? there
          simp only [join, Relation.join, provides, both, Bool.and_self, if_true]
          exact selectEqual_eq left condition
      | none =>
          have lacks := not_contains_of_lookup? there
          cases other : right.lookup? condition.right with
          | none =>
              simp [join, Relation.join, lacks, not_contains_of_lookup? other, here, there, other]
              rfl
          | some second =>
              simp [join, Relation.join, provides, lacks, contains_of_lookup? other, here, other,
                joinOn_eq here other]
              rfl

theorem product_natCast (inputs : List Relation) :
    inputs.foldr (fun input count => (input.tupleCount : Int) * count) 1 =
      (Relation.product inputs).tupleCount := by
  change _ = ((inputs.foldr (fun input count => input.tupleCount * count) 1 : Nat) : Int)
  induction inputs with
  | nil => rfl
  | cons input rest induction => rw [List.foldr_cons, List.foldr_cons, induction, Int.natCast_mul]

/-- No check of a rule fails. -/
theorem rule_eq (operator : Operator Relation) (inputs : List Relation) :
    rule operator inputs = (operator.estimate inputs).mapError .estimate := by
  unfold rule
  split
  · next name base =>
      rw [copies_eq]
      exact newRelation_natCast _ _
  · next kept input =>
      rw [copies_eq]
      exact newRelation_natCast _ _
  · exact selectValue_eq _ _
  · exact selectEqual_eq _ _
  · next inputs =>
      rw [copies_eq, product_natCast]
      exact newRelation_natCast _ _
  · exact join_eq _ _ _
  · simp [Operator.estimate, *]
    rfl

/-- What an operator puts out is the same with checks and without. -/
theorem output_eq (operator : Operator Relation) (inputs : List Relation) :
    output operator inputs = (operator.output inputs).mapError .estimate := by
  rw [output, rule_eq, Operator.output]
  cases operator.estimate inputs with
  | error fault => rfl
  | ok relation =>
      simp only [mapError_ok, bind, Except.bind]
      split
      · rfl
      · split <;> rfl

end Checked

end Selectivity
