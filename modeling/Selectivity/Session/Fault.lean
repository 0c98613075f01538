import Selectivity.Catalog.Fault
import Selectivity.Plan.Estimate
import Selectivity.Query.Fault

/-!
# Faults of a session

Why an operation of a session is refused.
-/

namespace Selectivity

/-- Why an operation is refused. -/
inductive Fault where
  | unknownReference
  | statistic (fault : StatisticFault)
  | tooFewInputs (count : Nat)
  /-- The condition of a join, given by its text, does not compare attributes. -/
  | joinCondition (text : String)
  /-- The output of a node, given by its caption, is already known. -/
  | outputKnown (caption : String)
  /-- The node that is to be estimated, given by its caption, has been estimated before. -/
  | alreadyEstimated (caption : String)
  | estimate (fault : EstimateFault)
  | query (fault : QueryFault)
  | catalog (fault : CatalogFault)
  deriving DecidableEq, Repr

/-- The text that tells why an operation is refused, if there is one. -/
def Fault.message? : Fault → Option String
  | .unknownReference => none
  | .statistic fault => fault.message?
  | .tooFewInputs count =>
      some s!"Product requires at least two inputs, but {count} were given"
  | .joinCondition text =>
      some ("Joins require an attribute comparison as predicate, not '" ++ text ++ "'")
  | .outputKnown caption =>
      some ("Output of operator '" ++ caption ++ "' has already been computed")
  | .alreadyEstimated caption =>
      some ("Operator '" ++ caption ++ "' has already been estimated")
  | .estimate fault => fault.message?
  | .query fault => some fault.message
  | .catalog fault => fault.message?

end Selectivity
