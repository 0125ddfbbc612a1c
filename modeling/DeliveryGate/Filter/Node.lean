import DeliveryGate.Filter.Condition
import DeliveryGate.Time.Instant

/-!
# Filter trees

A step's filters are trees: a leaf asks one question, a group joins its children by AND or OR. A
webhook leaf is the only kind that needs a call over the network.
-/

namespace DeliveryGate

/-- How a group joins its children. -/
inductive GroupOperator where
  | and
  | or
  deriving DecidableEq, Repr

namespace GroupOperator

/-- The verdict of a child that settles the group. -/
def decisive : GroupOperator → Bool
  | .and => false
  | .or => true

def name : GroupOperator → String
  | .and => "AND"
  | .or => "OR"

def names : List (String × GroupOperator) := [("AND", .and), ("OR", .or)]

end GroupOperator

/-- The data that a field leaf looks into. -/
inductive Source where
  | payload
  | subscriber
  | tenant
  deriving DecidableEq, Repr

/-- What a previous step's message may have gone through. -/
inductive StepState where
  | read
  | unread
  | seen
  | unseen
  | opened
  deriving DecidableEq, Repr

namespace StepState

def name : StepState → String
  | .read => "read"
  | .unread => "unread"
  | .seen => "seen"
  | .unseen => "unseen"
  | .opened => "opened"

def names : List (String × StepState) :=
  [("read", .read), ("unread", .unread), ("seen", .seen), ("unseen", .unseen), ("opened", .opened)]

/-- Unread and unseen ask that the event did not happen. -/
def isNegative : StepState → Bool
  | .unread | .unseen => true
  | _ => false

/-- Seen and unseen look at the seen flag, the others at the read flag. -/
def usesSeenFlag : StepState → Bool
  | .seen | .unseen => true
  | _ => false

end StepState

namespace TimeUnit

def name : TimeUnit → String
  | .minutes => "minutes"
  | .hours => "hours"
  | .days => "days"

def names : List (String × TimeUnit) :=
  [("minutes", .minutes), ("hours", .hours), ("days", .days)]

end TimeUnit

/-- The kind of a node, as documents and records name it. -/
inductive Kind where
  | group
  | payload
  | subscriber
  | tenant
  | webhook
  | isOnline
  | isOnlineInLast
  | previousStep
  deriving DecidableEq, Repr

namespace Kind

def name : Kind → String
  | .group => "group"
  | .payload => "payload"
  | .subscriber => "subscriber"
  | .tenant => "tenant"
  | .webhook => "webhook"
  | .isOnline => "isOnline"
  | .isOnlineInLast => "isOnlineInLast"
  | .previousStep => "previousStep"

def names : List (String × Kind) :=
  [("group", .group), ("payload", .payload), ("subscriber", .subscriber), ("tenant", .tenant),
    ("webhook", .webhook), ("isOnline", .isOnline), ("isOnlineInLast", .isOnlineInLast),
    ("previousStep", .previousStep)]

end Kind

/-- A question that is answered at once. -/
inductive Leaf where
  /-- Compare a field of the payload, the subscriber or the tenant. -/
  | field (source : Source) (test : FieldTest)
  /-- Compare a field of a webhook's answer. -/
  | webhook (url : String) (test : FieldTest)
  /-- The subscriber is online, or is known not to be. -/
  | online (expected : Bool)
  /-- The subscriber was online within so many units. -/
  | onlineInLast (window : Int) (unit : TimeUnit)
  /-- The message of an earlier step went through this. -/
  | previousStep (step : String) (state : StepState)
  deriving DecidableEq

/-- A filter tree. -/
inductive Node where
  | leaf (leaf : Leaf)
  | group (operator : GroupOperator) (children : List Node)

namespace Leaf

def kind : Leaf → Kind
  | .field .payload _ => .payload
  | .field .subscriber _ => .subscriber
  | .field .tenant _ => .tenant
  | .webhook _ _ => .webhook
  | .online _ => .isOnline
  | .onlineInLast _ _ => .isOnlineInLast
  | .previousStep _ _ => .previousStep

def isWebhook : Leaf → Bool
  | .webhook _ _ => true
  | _ => false

theorem eq_webhook : ∀ {l : Leaf}, l.isWebhook = true → ∃ url test, l = .webhook url test
  | .webhook url test, _ => ⟨url, test, rfl⟩

end Leaf

namespace Node

def kind : Node → Kind
  | .leaf l => l.kind
  | .group _ _ => .group

/-- Whether the node itself is a webhook leaf; a group is not, whatever it holds. -/
def isWebhook : Node → Bool
  | .leaf l => l.isWebhook
  | .group _ _ => false

end Node

end DeliveryGate
