import DeliveryGate.Evaluation.Engine
import DeliveryGate.Scenario.World

/-!
# Sessions

A session is a world and the evaluators that work in it: one that decides steps, and a separate one
for webhook conditions alone, each with a cache of its own. Its steps are evaluations and changes to
the world.
-/

namespace DeliveryGate

/-- A world, the settings and the caches of the evaluators in it. -/
structure Session where
  world : World
  header : String
  cache : SubscriberCache
  webhookCache : SubscriberCache

namespace Session

/-- A new session in a world. -/
def start (world : World) (settings : Settings) : Session :=
  let cache := SubscriberCache.empty settings.cacheTtlMs settings.cacheCapacity
  ⟨world, settings.signatureHeader, cache, cache⟩

/-- What a session is asked to do. -/
inductive Step where
  | evaluate (filters : List Node) (context : Context)
  | webhook (url : String) (test : FieldTest) (context : Context) (vars : Variables)
  | previousStep (step : String) (state : StepState) (context : Context)
  | lookup (environmentId subscriberId : String)
  | invalidate (environmentId subscriberId : String)
  | insert (row : Store.Row)
  | setClock (now : Instant)
  | advance (ms : Int)
  | setFailing (repositories : List Repository)

/-- What a step answers. -/
inductive Answer where
  | outcome (outcome : Outcome)
  | condition (condition : Condition)
  | subscriber (found : Option Subscriber)
  | time (now : Instant)
  | done

/-- A computation of the deciding evaluator. -/
def decide {α : Type} (x : Run (EvaluatorState World) α) : Run Session α :=
  Run.onPart (fun s => ⟨s.world, s.cache⟩)
    (fun state s => { s with world := state.world, cache := state.cache }) x

/-- A computation of the evaluator for webhook conditions. -/
def callWebhook {α : Type} (x : Run (EvaluatorState World) α) : Run Session α :=
  Run.onPart (fun s => ⟨s.world, s.webhookCache⟩)
    (fun state s => { s with world := state.world, webhookCache := state.cache }) x

/-- Change the world. -/
def change (f : World → World) : Run Session Answer := do
  Run.modify fun s => { s with world := f s.world }
  return .done

/-- Do a step. -/
def run : Step → Run Session Answer
  | .evaluate filters context => do
    let header := (← Run.get).header
    return .outcome (← decide (decideStep World.collaborators header filters context))
  | .webhook url test context vars => do
    let header := (← Run.get).header
    return .condition
      (← callWebhook (checkWebhook World.collaborators header context vars url test))
  | .previousStep step state context => do
    return .condition
      (← decide (EvaluatorState.call (checkPreviousStep World.collaborators context step state)))
  | .lookup environmentId subscriberId => do
    return .subscriber
      (← decide (lookupSubscriber World.collaborators environmentId subscriberId))
  | .invalidate environmentId subscriberId => do
    Run.modify fun s => { s with cache := s.cache.invalidate (environmentId, subscriberId) }
    return .done
  | .insert row => change fun world => { world with store := world.store.insert row }
  | .setClock now => change fun world => { world with now }
  | .advance ms => do
    let now := (← Run.get).world.now.addMillis ms
    Run.modify fun s => { s with world := { s.world with now } }
    return .time now
  | .setFailing repositories => change fun world => { world with failing := repositories }

end Session

end DeliveryGate
