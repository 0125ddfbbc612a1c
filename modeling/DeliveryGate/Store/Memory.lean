import DeliveryGate.Store.Record

/-!
# Store

The rows of five tables in memory. Subscribers (by environment and identifier) and environments (by
identifier) are kept under their key, where the last one written counts; jobs, messages and opened
events are kept in the order in which they came, and the first that matches is found.
-/

namespace DeliveryGate

/-- The rows of all tables. -/
structure Store where
  subscribers : List ((String × String) × Subscriber) := []
  jobs : List Job := []
  messages : List Message := []
  openedEvents : List OpenedEvent := []
  environments : List (String × Environment) := []

namespace Store

/-- Write a row under a key, in the place of an earlier one. -/
def put {κ α : Type} [BEq κ] (key : κ) (row : α) : List (κ × α) → List (κ × α)
  | [] => [(key, row)]
  | (k, r) :: rest => if k == key then (key, row) :: rest else (k, r) :: put key row rest

/-- Only the key that was written is looked up differently. -/
theorem lookup_put {κ α : Type} [BEq κ] [LawfulBEq κ] (key k : κ) (row : α) :
    ∀ rows : List (κ × α),
      (put key row rows).lookup k = if k == key then some row else rows.lookup k
  | [] => by
    rw [put, List.lookup_cons, List.lookup_nil]
    cases k == key <;> rfl
  | (other, r) :: rest => by
    rw [put]
    split
    · rename_i hother
      obtain rfl := eq_of_beq hother
      rw [List.lookup_cons, List.lookup_cons]
      cases k == other <;> rfl
    · rename_i hother
      rw [List.lookup_cons, List.lookup_cons, lookup_put key k row rest]
      cases hk : k == other with
      | true =>
        obtain rfl := eq_of_beq hk
        simp [hother]
      | false => rfl

/-- A row for one of the tables. -/
inductive Row where
  | subscriber (environmentId : String) (row : Subscriber)
  | job (row : Job)
  | message (row : Message)
  | openedEvent (row : OpenedEvent)
  | environment (row : Environment)

def insert (store : Store) : Row → Store
  | .subscriber environmentId row =>
    { store with subscribers := put (environmentId, row.id) row store.subscribers }
  | .job row => { store with jobs := store.jobs ++ [row] }
  | .message row => { store with messages := store.messages ++ [row] }
  | .openedEvent row => { store with openedEvents := store.openedEvents ++ [row] }
  | .environment row => { store with environments := put row.id row store.environments }

/-- The store after these rows were inserted in order. -/
def ofRows (rows : List Row) : Store := rows.foldl insert {}

/-! ### Lookups -/

def findSubscriber (store : Store) (environmentId subscriberId : String) : Option Subscriber :=
  store.subscribers.lookup (environmentId, subscriberId)

/-- Which job of an earlier step is asked for. -/
structure JobQuery where
  transactionId : String
  subscriberId : String
  environmentId : String
  stepId : String
  deriving DecidableEq

namespace JobQuery

def matchesJob (query : JobQuery) (job : Job) : Bool :=
  job.transactionId == query.transactionId && job.subscriberId == query.subscriberId
    && job.environmentId == query.environmentId && job.stepId == query.stepId

end JobQuery

def findJob (store : Store) (query : JobQuery) : Option Job :=
  store.jobs.find? query.matchesJob

def findMessage (store : Store) (environmentId jobId : String) : Option Message :=
  store.messages.find? fun message =>
    message.environmentId == environmentId && message.jobId == jobId

/-- Which opened events are counted; without a parent job, those of any job. -/
structure OpenedQuery where
  environmentId : String
  parentJobId : Option String
  messageId : String
  deriving DecidableEq

namespace OpenedQuery

def matchesEvent (query : OpenedQuery) (event : OpenedEvent) : Bool :=
  event.environmentId == query.environmentId && event.messageId == query.messageId
    && (match query.parentJobId with
      | none => true
      | some parent => event.jobId == parent)

end OpenedQuery

def countOpened (store : Store) (query : OpenedQuery) : Nat :=
  store.openedEvents.countP query.matchesEvent

/-- An environment, if it belongs to the organization. -/
def findEnvironment (store : Store) (environmentId organizationId : String) :
    Option Environment :=
  (store.environments.lookup environmentId).filter fun environment =>
    environment.organizationId == organizationId

end Store

end DeliveryGate
