import DeliveryGate.Proofs.Evaluation.Recorder
import DeliveryGate.Scenario.World

/-!
# Rows in a store

Any collaborators can be given a store for their rows: a lookup does what it did and fails where it
failed, but what it finds is in the store (`Collaborators.over`). Webhooks, the audit trail, the
clock and what else a lookup does are left open. A scripted world is over its own store. A service
is an evaluator over a store, and in a run of it evaluations take turns with rows that are inserted
and with changes outside.
-/

namespace DeliveryGate

variable {σ α β : Type}

/-- The same computation with another answer, unless it fails. -/
def Run.answering (x : Run σ β) (a : α) : Run σ α := do
  let _ ← x
  return a

/-- The same collaborators with their rows in a store. -/
def Collaborators.over (c : Collaborators σ) (store : Store) : Collaborators σ :=
  { c with
    findSubscriber := fun environmentId subscriberId =>
      (c.findSubscriber environmentId subscriberId).answering
        (store.findSubscriber environmentId subscriberId)
    findJob := fun query => (c.findJob query).answering (store.findJob query)
    findMessage := fun environmentId jobId =>
      (c.findMessage environmentId jobId).answering (store.findMessage environmentId jobId)
    countOpened := fun query => (c.countOpened query).answering (store.countOpened query)
    findEnvironment := fun environmentId organizationId =>
      (c.findEnvironment environmentId organizationId).answering
        (store.findEnvironment environmentId organizationId) }

theorem Run.answering_of_ok {x : Run σ β} {s t : σ} {b : β} (h : x s = (.ok b, t)) (a : α) :
    x.answering a s = (.ok a, t) := Run.bind_of_ok h

theorem Run.answering_of_error {x : Run σ β} {s t : σ} {e : Failure} (h : x s = (.error e, t))
    (a : α) : x.answering a s = (.error e, t) := Run.bind_of_error h

/-- A lookup in a store does to the world what the call does, and only the call can fail. -/
theorem Run.answering_recorded (x : Run σ β) (a : α) (call : Call) (s : σ × List Call) :
    (x.answering a).recorded call s
      = ((x s.1).1.map fun _ => a, ((x s.1).2, s.2 ++ [call])) := by
  rw [recorded]
  rcases h : x s.1 with ⟨e | b, w⟩
  · rw [answering_of_error h]
    rfl
  · rw [answering_of_ok h]
    rfl

/-! ### Scripted worlds -/

namespace World

theorem ask_answering (repository : Repository) (find : Store → α) (world : World) :
    (ask repository find).answering (find world.store) world = ask repository find world := by
  rcases h : ask repository find world with ⟨e | a, w⟩
  · exact Run.answering_of_error h _
  · rw [Run.answering_of_ok h]
    simp only [ask] at h
    split at h
    · cases h
    · cases h
      rfl

/-- Two worlds are the same and hold this store. -/
def Holding (store : Store) (s t : World) : Prop := s = t ∧ s.store = store

theorem ask_related (repository : Repository) (find : Store → α) (store : Store) :
    Run.Related (Holding store) (ask repository find)
      ((ask repository find).answering (find store)) := by
  rintro world _ ⟨rfl, rfl⟩
  rw [ask_answering]
  exact ⟨rfl, rfl, rfl⟩

theorem alike_over (store : Store) (ctx : Context) :
    Alike (EvaluatorState.SameCache (Holding store)) collaborators (collaborators.over store)
      ctx where
  subscriber := lookupSubscriber_related
    (ask_related .subscribers (fun store => store.findSubscriber _ _) store)
    fun s t h => by rw [h.1]; rfl
  job query := (ask_related .jobs (fun store => store.findJob _) store).call
  message jobId := (ask_related .messages (fun store => store.findMessage _ _) store).call
  opened messageId := (ask_related .openedEvents (fun store => store.countOpened _) store).call
  environment := (ask_related .environments (fun store => store.findEnvironment _ _) store).call
  post request := Run.Related.call <| by
    rintro world _ ⟨rfl, rfl⟩
    exact ⟨rfl, rfl, rfl⟩
  keep entry := by
    rintro ⟨world, cache⟩ ⟨_, _⟩ ⟨⟨rfl, rfl⟩, rfl⟩
    refine ⟨⟨rfl, ?_⟩, rfl⟩
    change (World.keep entry world).2.store = world.store
    rw [World.keep]
    split <;> rfl
  now s t h := by
    rw [h.1.1]
    rfl

/-- The rows of a scripted world are those of its store. -/
theorem decideStep_over (header : String) (filters : List Node) (ctx : Context)
    (s : EvaluatorState World) :
    decideStep (collaborators.over s.world.store) header filters ctx s
      = decideStep collaborators header filters ctx s := by
  have hrelated : Run.Related _ (decideStep collaborators header filters ctx)
      (decideStep (collaborators.over s.world.store) header filters ctx) :=
    decideStep_related (alike_over s.world.store ctx) filters
  obtain ⟨hresult, ⟨hworld, -⟩, hcache⟩ := hrelated s s ⟨⟨rfl, rfl⟩, rfl⟩
  exact Prod.ext hresult.symm (EvaluatorState.mk.injEq .. |>.mpr ⟨hworld.symm, hcache.symm⟩)

end World

/-! ### Services -/

/-- A store, and an evaluator over it whose calls are recorded. -/
structure Service (σ : Type) where
  store : Store
  evaluator : EvaluatorState (σ × List Call)

namespace Service

/-- A new evaluator over a store. -/
def start (store : Store) (world : σ) (ttlMs capacity : Nat) : Service σ :=
  ⟨store, ⟨(world, []), SubscriberCache.empty ttlMs capacity⟩⟩

/-- The requests to webhooks so far, in order. -/
def requests (service : Service σ) : List Request := service.evaluator.requests

/-- The audit entries so far, in order. -/
def entries (service : Service σ) : List AuditEntry := service.evaluator.entries

/-- What may happen to a service. -/
inductive Event (σ : Type) where
  | evaluate (filters : List Node) (ctx : Context)
  | insert (row : Store.Row)
  /-- The clock moves, or anything else changes that is not in the store. -/
  | outside (change : σ → σ)

section

variable (c : Collaborators σ) (header : String)

/-- What the evaluator of a service calls at the moment. -/
def collaborators (service : Service σ) : Collaborators (σ × List Call) :=
  (c.over service.store).recorded

/-- Decide a step. -/
def evaluate (service : Service σ) (filters : List Node) (ctx : Context) :
    Except Failure Outcome × Service σ :=
  let (result, evaluator) :=
    decideStep (service.collaborators c) header filters ctx service.evaluator
  (result, { service with evaluator })

/-- The results of an event, one for an evaluation, and the service after it. -/
def step (service : Service σ) : Event σ → List (Except Failure Outcome) × Service σ
  | .evaluate filters ctx =>
    let (result, next) := service.evaluate c header filters ctx
    ([result], next)
  | .insert row => ([], { service with store := service.store.insert row })
  | .outside change =>
    ([], { service with evaluator := { service.evaluator with
      world := (change service.evaluator.world.1, service.evaluator.world.2) } })

/-- The results of a run, one for each evaluation, and the service after it. -/
def run (service : Service σ) : List (Event σ) → List (Except Failure Outcome) × Service σ
  | [] => ([], service)
  | event :: rest =>
    let (results, next) := service.step c header event
    let (more, last) := next.run rest
    (results ++ more, last)

end

end Service

end DeliveryGate
