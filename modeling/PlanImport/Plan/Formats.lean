import PlanImport.Message.Binary
import PlanImport.Message.OfJson
import PlanImport.Plan.OfMessage

/-!
# The two formats of plans

A plan comes as bytes or as a JSON text. Either way it is first a message, whose shape is checked,
and then a plan.
-/

namespace PlanImport.Plan

/-- The plan that bytes hold. -/
def ofBytes? (bytes : List UInt8) : Option Plan := (Message.decode .plan bytes).map .ofMessage

/-- A fault of a message where a plan was expected. -/
def ofTextFault : JsonFault → JsonFault
  | .malformed => .malformed
  | .shape message => .shape ("Was not possible to convert JSON into Substrait plan: " ++ message)

/-- The plan that a JSON text holds. -/
def ofText (text : String) : Except JsonFault Plan :=
  ((Message.ofText .plan text).map .ofMessage).mapError ofTextFault

end PlanImport.Plan
