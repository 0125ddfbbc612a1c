import DeliveryGate.Json.Value
import DeliveryGate.Time.Timestamp

/-!
# Records

The rows that the collaborators of an evaluation hold: subscribers with their presence, the jobs and
messages of earlier steps, opened events, environments with their keys, and the audit trail.
-/

namespace DeliveryGate

/-- The channel of a step or message. -/
inductive Channel where
  | inApp
  | email
  | sms
  | chat
  | push
  deriving DecidableEq, Repr

namespace Channel

def name : Channel → String
  | .inApp => "in_app"
  | .email => "email"
  | .sms => "sms"
  | .chat => "chat"
  | .push => "push"

def names : List (String × Channel) :=
  [("in_app", .inApp), ("email", .email), ("sms", .sms), ("chat", .chat), ("push", .push)]

end Channel

/-- A subscriber's profile and presence. -/
structure Subscriber where
  id : String
  firstName : Option String := none
  lastName : Option String := none
  email : Option String := none
  phone : Option String := none
  locale : Option String := none
  data : Option Json := none
  isOnline : Option Bool := none
  lastOnlineAt : Option Instant := none
  deriving Inhabited

/-- The job whose step is being decided. -/
structure CurrentJob where
  id : String
  parentId : Option String
  channel : Channel
  providerId : Option String
  payload : Option Json

/-- A job of an earlier step. -/
structure Job where
  id : String
  transactionId : String
  subscriberId : String
  environmentId : String
  stepId : String
  channel : Channel
  deriving DecidableEq

/-- A message that a job sent. -/
structure Message where
  id : String
  jobId : String
  environmentId : String
  channel : Channel
  seen : Option Bool
  read : Option Bool
  deriving DecidableEq

/-- The event that a message was opened. -/
structure OpenedEvent where
  environmentId : String
  jobId : String
  messageId : String
  deriving DecidableEq

/-- An environment and the keys that sign its requests. -/
structure Environment where
  id : String
  organizationId : String
  apiKeys : List String
  deriving DecidableEq

/-- What the audit trail keeps of one evaluated filter. -/
structure AuditEntry where
  jobId : String
  environmentId : String
  organizationId : String
  subscriberId : String
  transactionId : String
  detail : String
  passed : Bool
  /-- The trace as compact JSON. -/
  raw : String
  createdAt : Instant
  deriving DecidableEq

/-- An identifier of 128 bits, as 32 hexadecimal digits. -/
structure Uuid where
  digits : List Char
  deriving DecidableEq

namespace Uuid

/-- The digits of four groups and a fifth of twelve digits, with hyphens between them. -/
def hyphenated? (cs : List Char) : Option (List Char) :=
  match Text.splitOn '-' cs with
  | [a, b, c, d, e] =>
    if [a, b, c, d, e].map List.length == [8, 4, 4, 4, 12] then some (a ++ b ++ c ++ d ++ e)
    else none
  | _ => none

/-- Read an identifier: 32 digits, or with hyphens, then also in braces or behind `urn:uuid:`. -/
def parse? (text : String) : Option Uuid :=
  let cs := text.toList
  let inner := match cs with
    | 'u' :: 'r' :: 'n' :: ':' :: 'u' :: 'u' :: 'i' :: 'd' :: ':' :: rest => hyphenated? rest
    | '{' :: rest => if cs.getLast? == some '}' then hyphenated? rest.dropLast else none
    | _ => if cs.length == 32 then some cs else hyphenated? cs
  (inner.filter fun digits => digits.all fun c => (Number.digitIn? 16 c).isSome).map
    fun digits => ⟨digits.map Char.toLower⟩

/-- The text of an identifier, in lower case with hyphens. -/
def text (id : Uuid) : String :=
  let part (start length : Nat) : List Char := (id.digits.drop start).take length
  String.ofList (part 0 8 ++ '-' :: part 8 4 ++ '-' :: part 12 4 ++ '-' :: part 16 4
    ++ '-' :: part 20 12)

end Uuid

/-- A kept entry of the audit trail. -/
structure AuditRecord where
  id : Uuid
  entry : AuditEntry
  deriving DecidableEq

end DeliveryGate
