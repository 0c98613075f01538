import Selectivity.Plan.Basic

/-!
# Plans as text

The outline has a line for each node, below the line of the node that uses it and indented more
deeply. There is none if some node puts out a relation that cannot be told. The expression is the
plan in the form of nested constructors.
-/

namespace Selectivity.Plan

/-- The line of a node without its indentation: what it does and, once known, what it puts out. -/
def headline? (node : PlanNode) : Option String :=
  match node.output with
  | none => some node.operator.caption
  | some output => output.render?.map fun text => node.operator.caption ++ " :: " ++ text

/-- What stands in front of a line: the root has no indentation and no arrow. -/
def margin (indentation : Nat) : String :=
  if indentation = 0 then "" else String.ofList (List.replicate indentation ' ') ++ "<- "

mutual

/-- The outline of a plan that stands at the given indentation. -/
def outlineAt? (indentation : Nat) : Plan → Option String
  | .node node inputs =>
      match headline? node, outlinesAt? (indentation + 2) inputs with
      | some line, some below =>
          some (String.intercalate "\n" ((margin indentation ++ line) :: below))
      | _, _ => none

/-- The outlines of several plans that stand at the given indentation. -/
def outlinesAt? (indentation : Nat) : List Plan → Option (List String)
  | [] => some []
  | plan :: rest =>
      match outlineAt? indentation plan, outlinesAt? indentation rest with
      | some outline, some outlines => some (outline :: outlines)
      | _, _ => none

end

def outline? (plan : Plan) : Option String :=
  outlineAt? 0 plan

/-- The outline of a plan that can be told. -/
def outline (plan : Plan) : String :=
  plan.outline?.getD ""

def expression : Plan → String :=
  Tree.fold fun node below =>
    match node.operator with
    | .scan name _ => "Scan(" ++ name ++ ")"
    | operator => operator.kind ++ "(" ++ String.intercalate ", " below ++ ")"

end Selectivity.Plan
