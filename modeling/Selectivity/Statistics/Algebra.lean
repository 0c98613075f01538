import Selectivity.Predicate
import Selectivity.Statistics.Relation

/-!
# Relational algebra on statistics

The size of a projection, a selection, a product and an equi-join from the sizes of what they are
applied to. Divisions are rounded down; every divisor is a value count and so at least one. No
estimate drives a value count below one. A rule that finds no attribute of a name tells the
relations in which it has looked, and that is another fault if one of their counts has too many
digits to be written.
-/

namespace Selectivity

/-- Why an operator or a plan has no estimate. -/
inductive EstimateFault where
  | missingAttribute (fault : MissingAttribute)
  | unknownOperator (kind : String)
  /-- An attribute that is called by a list or an object is looked for among names. -/
  | compoundName
  /-- A count has too many digits to be written. -/
  | unwritable
  deriving DecidableEq, Repr

namespace EstimateFault

/-- The text that tells why there is no estimate, if there is one. -/
def message? : EstimateFault → Option String
  | .missingAttribute fault => some fault.message
  | .unknownOperator kind => some ("Unknown operator type: " ++ kind)
  | .compoundName => none
  | .unwritable => none

/-- The fault that attributes are missing. It tells the relations that were searched, and that may
fail. -/
def missing (attributes : List String) (searched : List Relation) : EstimateFault :=
  match searched.mapM Relation.render? with
  | some schemas => .missingAttribute ⟨attributes, schemas⟩
  | none => .unwritable

theorem missing_eq (attributes : List String) (searched : List Relation) :
    missing attributes searched =
      if searched.all Relation.isWritable then
        .missingAttribute ⟨attributes, searched.map Relation.render⟩
      else .unwritable := by
  rw [missing, Relation.mapM_render?]
  split
  · next same =>
      split at same
      · next writable => rw [if_pos writable, ← Option.some.inj same]
      · cases same
  · next same =>
      split at same
      · cases same
      · next tooLong => rw [if_neg tooLong]

theorem missing_singleton (attributes : List String) (relation : Relation) :
    missing attributes [relation] =
      if relation.isWritable then .missingAttribute ⟨attributes, [relation.render]⟩
      else .unwritable := by
  rw [missing_eq, List.all_cons, List.all_nil, Bool.and_true]
  rfl

theorem missing_of_writable (attributes : List String) {searched : List Relation}
    (writable : ∀ relation ∈ searched, relation.isWritable = true) :
    missing attributes searched =
      .missingAttribute ⟨attributes, searched.map Relation.render⟩ := by
  rw [missing_eq, if_pos (List.all_eq_true.mpr writable)]

theorem missing_of_tooLong (attributes : List String) {searched : List Relation}
    {relation : Relation} (member : relation ∈ searched) (tooLong : relation.isWritable = false) :
    missing attributes searched = .unwritable := by
  rw [missing_eq, if_neg]
  intro writable
  exact absurd (List.all_eq_true.mp writable relation member) (ne_true_of_eq_false tooLong)

end EstimateFault

/-- The attributes with every one of the given names set to one value count. -/
def overwriteCounts (names : List Label) (count : Nat) (positive : 0 < count)
    (attributes : List Attribute) : List Attribute :=
  attributes.map fun column =>
    if names.contains column.name then column.withValueCount count positive
    else column

namespace Relation

/-- For each kept name in order, every attribute of that name; unknown names are dropped and the
tuples keep their number. -/
def project (input : Relation) (kept : List String) : Relation :=
  ⟨input.tupleCount,
    kept.flatMap fun (name : String) =>
      input.attributes.filter fun column => column.name == (name : Label)⟩

/-- The tuples with one value in an attribute: the value count divides the tuples, and one value
is left. -/
def selectValue (input : Relation) (column : String) :
    Except EstimateFault Relation :=
  match input.lookup? column with
  | none => .error (.missing [column] [input])
  | some found =>
      .ok ⟨input.tupleCount / found.valueCount,
        overwriteCounts [column] 1 Nat.one_pos input.attributes⟩

/-- The tuples with equal values in two attributes: the larger value count divides the tuples, and
the smaller one is left for both. -/
def selectEqual (input : Relation) (condition : Comparison) :
    Except EstimateFault Relation :=
  match input.lookup? condition.left, input.lookup? condition.right with
  | some left, some right =>
      .ok ⟨input.tupleCount / max left.valueCount right.valueCount,
        overwriteCounts [condition.left, condition.right]
          (min left.valueCount right.valueCount)
          (Nat.lt_min.mpr ⟨left.valueCount_pos, right.valueCount_pos⟩)
          input.attributes⟩
  | _, _ => .error (.missing [condition.left, condition.right] [input])

/-- All combinations of the tuples of several relations. -/
def product (inputs : List Relation) : Relation :=
  ⟨inputs.foldr (fun input count => input.tupleCount * count) 1,
    inputs.flatMap Relation.attributes⟩

/-- The combinations of tuples that agree in an attribute of each side. -/
def joinOn (left right : Relation) (leftFound rightFound : Attribute) : Relation :=
  ⟨left.tupleCount * right.tupleCount / max leftFound.valueCount rightFound.valueCount,
    overwriteCounts [leftFound.name, rightFound.name]
      (min leftFound.valueCount rightFound.valueCount)
      (Nat.lt_min.mpr ⟨leftFound.valueCount_pos, rightFound.valueCount_pos⟩)
      (left.attributes ++ right.attributes)⟩

/-- An equi-join. The names are not bound to a side. If the left relation provides both, the join
is a selection on it and the right relation contributes nothing. -/
def join (left right : Relation) (condition : Comparison) :
    Except EstimateFault Relation :=
  if left.contains condition.left && left.contains condition.right then
    left.selectEqual condition
  else
    match left.lookup? condition.left, right.lookup? condition.right with
    | some leftFound, some rightFound => .ok (joinOn left right leftFound rightFound)
    | _, _ =>
        match left.lookup? condition.right, right.lookup? condition.left with
        | some leftFound, some rightFound => .ok (joinOn left right leftFound rightFound)
        | _, _ =>
            .error (.missing [condition.left, condition.right] [left, right])

end Relation

end Selectivity
