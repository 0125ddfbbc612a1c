import DeliveryGate.Store.Memory
import DeliveryGate.Wire.Evaluation

/-!
# Fixtures

A fixture is one step evaluation in a file: the filters, the context, and rows to fill a store with.
The subscribers of a fixture belong to the environment of its context.
-/

namespace DeliveryGate

/-- Rows to fill a store with. -/
structure Seed where
  subscribers : List Subscriber := []
  jobs : List Job := []
  messages : List Message := []
  openedEvents : List OpenedEvent := []
  environments : List Environment := []

namespace Seed

/-- The rows of a seed in the order in which they are inserted. -/
def rows (seed : Seed) (environmentId : String) : List Store.Row :=
  seed.subscribers.map (Store.Row.subscriber environmentId)
    ++ seed.jobs.map Store.Row.job
    ++ seed.messages.map Store.Row.message
    ++ seed.openedEvents.map Store.Row.openedEvent
    ++ seed.environments.map Store.Row.environment

def toJson (seed : Seed) : Json :=
  .obj [("subscribers", .arr (seed.subscribers.map Subscriber.toJson)),
    ("jobs", .arr (seed.jobs.map Job.toJson)),
    ("messages", .arr (seed.messages.map Message.toJson)),
    ("openedEvents", .arr (seed.openedEvents.map OpenedEvent.toJson)),
    ("environments", .arr (seed.environments.map Environment.toJson))]

def shape : Shape Seed :=
  Shape.make Seed.mk
    |>.defaulted "subscribers" [] (Reader.list Subscriber.decode)
    |>.defaulted "jobs" [] (Reader.list Job.decode)
    |>.defaulted "messages" [] (Reader.list Message.decode)
    |>.defaulted "openedEvents" [] (Reader.list OpenedEvent.decode)
    |>.defaulted "environments" [] (Reader.list Environment.decode)

def decode : Reader Seed := shape.reader

end Seed

/-- One step evaluation: filters, context and seed. -/
structure Fixture where
  filters : Option (List Node)
  context : Context
  seed : Seed

namespace Fixture

/-- The store that holds the rows of the seed. -/
def store (fixture : Fixture) : Store :=
  Store.ofRows (fixture.seed.rows fixture.context.environmentId)

def toJson (fixture : Fixture) : Json :=
  .obj [("filters", Json.ofOption (fun nodes => .arr (Node.listToJson nodes)) fixture.filters),
    ("context", fixture.context.toJson), ("seed", fixture.seed.toJson)]

def shape : Shape Fixture :=
  Shape.make Fixture.mk
    |>.optional "filters" (Reader.list Node.decode)
    |>.required "context" Context.decode
    |>.defaulted "seed" {} Seed.decode

def decode : Reader Fixture := shape.reader

end Fixture

end DeliveryGate
