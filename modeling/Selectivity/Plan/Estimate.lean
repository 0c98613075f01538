import Selectivity.Plan.Basic
import Selectivity.Statistics.Algebra

/-!
# Estimates

The output of an operator follows from the outputs of its inputs. The estimate of a plan is
defined bottom-up: an output that is known stands, and any other is found from the estimates of
the inputs, which are taken from left to right. The first fault on this way is the fault of the
plan.

What an operator puts out in fact is looked through by name, if a condition gives counts to some
of its attributes, and there it is a fault if a name is a list or an object, which is found in no
set of names. Then it has to be told, and there it is a fault if a count has too many digits to be
written.
-/

namespace Selectivity

/-- The output of an operator whose inputs put out the given relations. -/
def Operator.estimate (operator : Operator Relation) (inputs : List Relation) :
    Except EstimateFault Relation :=
  match operator, inputs with
  | .scan _ base, [] => .ok base
  | .project attributes, [input] => .ok (input.project attributes)
  | .select (some (.equalsValue column _)), [input] => input.selectValue column
  | .select (some (.equalsAttribute condition)), [input] => input.selectEqual condition
  | .product, inputs => .ok (Relation.product inputs)
  | .join condition, [left, right] => left.join right condition
  | operator, _ => .error (.unknownOperator operator.kind)

/-- What an operator puts out: the estimate, if its attributes can be looked through where a
condition asks for that, and if it can be told. -/
def Operator.output (operator : Operator Relation) (inputs : List Relation) :
    Except EstimateFault Relation :=
  match operator.estimate inputs with
  | .error fault => .error fault
  | .ok relation =>
      if operator.hasCondition && relation.hasCompoundName then .error .compoundName
      else if relation.render?.isSome then .ok relation
      else .error .unwritable

namespace Plan

mutual

def estimate : Plan → Except EstimateFault Relation
  | .node node inputs =>
      match node.output with
      | some output => .ok output
      | none =>
          match estimateAll inputs with
          | .error fault => .error fault
          | .ok outputs => node.operator.estimate outputs

/-- The outputs of several plans, from left to right. -/
def estimateAll : List Plan → Except EstimateFault (List Relation)
  | [] => .ok []
  | plan :: rest =>
      match estimate plan with
      | .error fault => .error fault
      | .ok output =>
          match estimateAll rest with
          | .error fault => .error fault
          | .ok outputs => .ok (output :: outputs)

end

end Plan

end Selectivity
