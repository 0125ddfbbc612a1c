import DeliveryGate.Evaluation.Collaborators

/-!
# Scripted collaborators

A world whose rows are in memory, whose webhook answers and failures are scripted, and which writes
down every call. The n-th call of a url gets the n-th answer of its script, and the last answer from
then on.
-/

namespace DeliveryGate

/-- A kind of rows that can be asked for. -/
inductive Repository where
  | subscribers
  | jobs
  | messages
  | openedEvents
  | environments
  deriving DecidableEq

namespace Repository

def name : Repository → String
  | .subscribers => "subscribers"
  | .jobs => "jobs"
  | .messages => "messages"
  | .openedEvents => "details"
  | .environments => "environments"

def all : List Repository := [.subscribers, .jobs, .messages, .openedEvents, .environments]

end Repository

/-- A scripted answer of a webhook. -/
inductive Reply where
  | answer (body : Json)
  | failure (reason : String)

/-- The calls that were made, in order. -/
structure Journal where
  requests : List Request := []
  audit : List AuditEntry := []
  lookups : List Repository := []

/-- Rows, scripts and the calls so far. -/
structure World where
  store : Store
  now : Instant
  script : List (String × List Reply) := []
  failing : List Repository := []
  auditFails : Bool := false
  journal : Journal := {}

namespace World

/-- The answer that the next call of a url gets. -/
def nextReply (world : World) (url : String) : Reply :=
  let replies := (world.script.lookup url).getD []
  let earlier := world.journal.requests.countP fun request => request.url == url
  match replies[earlier]? with
  | some reply => reply
  | none => (replies.getLast?).getD (.failure "connection refused")

/-- Ask a repository: the call is written down, and fails if the repository does. -/
def ask {α : Type} (repository : Repository) (find : Store → α) : Run World α := fun world =>
  let journal := { world.journal with lookups := world.journal.lookups ++ [repository] }
  let result : Except Failure α :=
    if world.failing.contains repository then
      .error (.repository (repository.name ++ " down"))
    else .ok (find world.store)
  (result, { world with journal })

/-- Call a webhook by its script. -/
def post (request : Request) : Run World Json := fun world =>
  let journal := { world.journal with requests := world.journal.requests ++ [request] }
  let result : Except Failure Json :=
    match world.nextReply request.url with
    | .answer body => .ok body
    | .failure reason => .error (.webhook request.url reason)
  (result, { world with journal })

/-- Keep an audit entry, unless keeping fails. -/
def keep (entry : AuditEntry) : Run World Unit := fun world =>
  if world.auditFails then (.error (.other "audit down"), world)
  else
    (.ok (), { world with
      journal := { world.journal with audit := world.journal.audit ++ [entry] } })

/-- The collaborators of an evaluation in this world. -/
def collaborators : Collaborators World where
  findSubscriber environmentId subscriberId :=
    ask .subscribers fun store => store.findSubscriber environmentId subscriberId
  findJob query := ask .jobs fun store => store.findJob query
  findMessage environmentId jobId :=
    ask .messages fun store => store.findMessage environmentId jobId
  countOpened query := ask .openedEvents fun store => store.countOpened query
  findEnvironment environmentId organizationId :=
    ask .environments fun store => store.findEnvironment environmentId organizationId
  post := post
  keep := keep
  now := World.now

end World

end DeliveryGate
