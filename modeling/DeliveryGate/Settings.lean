import DeliveryGate.Failure

/-!
# Settings

The four settings of an evaluation and how they are read from named variables. Each variable is
checked on its own, and the first faulty one in their order is reported. The text of a fault quotes
the value as it was given; blanks around it are ignored otherwise.
-/

namespace DeliveryGate

/-- The settings of an evaluation. -/
structure Settings where
  /-- How long a webhook may take. -/
  webhookTimeoutMs : Nat := 5000
  /-- The header that carries the signature. -/
  signatureHeader : String := "nv-hmac-256"
  /-- How long a cached subscriber is served; zero turns the cache off. -/
  cacheTtlMs : Nat := 30000
  /-- How many subscribers are cached. -/
  cacheCapacity : Nat := 10000
  deriving DecidableEq

namespace Settings

def timeoutName : String := "STEPFILTER_WEBHOOK_TIMEOUT_MS"

def headerName : String := "STEPFILTER_SIGNATURE_HEADER"

def ttlName : String := "STEPFILTER_SUBSCRIBER_CACHE_TTL_MS"

def capacityName : String := "STEPFILTER_SUBSCRIBER_CACHE_CAPACITY"

/-- The names of the variables in the order in which they are checked. -/
def names : List String := [timeoutName, headerName, ttlName, capacityName]

/-- The number in a value, below `2 ^ 64`. -/
def numeral? (raw : String) : Option Nat :=
  Number.unsigned? 0x10000000000000000 (Text.trim raw.toList)

/-- A number of milliseconds. -/
def millis (name raw : String) : Except Failure Nat :=
  match numeral? raw with
  | some n => .ok n
  | none => .error (.config (name ++ " must be a number of milliseconds, got '" ++ raw ++ "'"))

/-- A number that is not zero. -/
def positive (name : String) (n : Nat) : Except Failure Nat :=
  if n = 0 then .error (.config (name ++ " must be greater than zero")) else .ok n

def timeoutOf (raw : String) : Except Failure Nat :=
  (millis timeoutName raw).bind (positive timeoutName)

def headerOf (raw : String) : Except Failure String :=
  let trimmed := Text.trim raw.toList
  if trimmed.isEmpty then .error (.config (headerName ++ " must not be empty"))
  else .ok (String.ofList trimmed)

def ttlOf (raw : String) : Except Failure Nat := millis ttlName raw

def capacityOf (raw : String) : Except Failure Nat :=
  match numeral? raw with
  | some n => positive capacityName n
  | none =>
    .error (.config (capacityName ++ " must be a positive integer, got '" ++ raw ++ "'"))

/-- The default where a variable is not set, else what its value means. -/
def orDefault {α : Type} (default : α) (read : String → Except Failure α) :
    Option String → Except Failure α
  | none => .ok default
  | some raw => read raw

/-- The settings that the variables of an environment give. -/
def ofLookup (lookup : String → Option String) : Except Failure Settings := do
  let timeout ← orDefault 5000 timeoutOf (lookup timeoutName)
  let header ← orDefault "nv-hmac-256" headerOf (lookup headerName)
  let ttl ← orDefault 30000 ttlOf (lookup ttlName)
  let capacity ← orDefault 10000 capacityOf (lookup capacityName)
  return ⟨timeout, header, ttl, capacity⟩

end Settings

end DeliveryGate
