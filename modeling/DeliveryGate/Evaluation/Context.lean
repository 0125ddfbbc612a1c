import DeliveryGate.Filter.Node
import DeliveryGate.Store.Record

/-!
# The inputs of an evaluation

A context says for whom and for which job a step is decided. The variables are the data that field
leaves look into.
-/

namespace DeliveryGate

/-- What is known when a step is decided. -/
structure Context where
  /-- A snapshot of the subscriber, if the caller has one. -/
  subscriber : Option Subscriber
  payload : Option Json
  tenant : Option Json
  environmentId : String
  organizationId : String
  subscriberId : String
  transactionId : String
  job : Option CurrentJob

/-- The data that field leaves look into. -/
structure Variables where
  subscriber : Option Json
  payload : Option Json
  tenant : Option Json
  deriving Inhabited

namespace Variables

/-- The data of a source. -/
def source (vars : Variables) : Source → Option Json
  | .payload => vars.payload
  | .subscriber => vars.subscriber
  | .tenant => vars.tenant

end Variables

/-- The conditions that were evaluated for one filter of the list. -/
structure Trace where
  filter : Node
  vars : Variables
  conditions : List Condition

/-- Which kinds of filter were seen, passed and failed: each once, in the order of first
appearance. -/
structure Usage where
  filters : List String
  passedFilters : List String
  failedFilters : List String
  deriving DecidableEq

/-- The decision about a step and how it came about. -/
structure Outcome where
  passed : Bool
  vars : Variables
  traces : List Trace
  conditions : List Condition
  usage : Usage

end DeliveryGate
