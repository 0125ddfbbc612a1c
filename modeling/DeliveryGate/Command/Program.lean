import DeliveryGate.Command.Assignments
import DeliveryGate.Command.Invocation
import DeliveryGate.Evaluation.Engine
import DeliveryGate.Fixture.Loader
import DeliveryGate.Http.Exchange
import DeliveryGate.Scenario.World

/-!
# The program

What a command line does, as a function of the variables, the content of its file and the time. A
fixture is evaluated over its own rows and without a network, so a webhook that is reached ends the
evaluation: its address and headers are checked, but nothing is sent.
-/

namespace DeliveryGate

namespace Command

/-- What a command leaves behind: its exit code, its output, and what went wrong. -/
structure Report where
  exitCode : Nat
  output : String
  error : Option String
  deriving DecidableEq

namespace Report

def success (output : String) : Report := ⟨0, output, none⟩

/-- The report on an answer, with a line break behind it. -/
def value (answer : Json) : Report := success (answer.pretty ++ "\n")

def failure (text : String) : Report := ⟨1, "", some text⟩

/-- The report on a command line that the program does not know. -/
def misuse : Report := ⟨2, "", none⟩

end Report

/-- Check a request as far as this can be done without a network. -/
def refusePost (request : Request) : Run World Json :=
  let reason :=
    match Http.Message.ofCall request.url request.body request.headers with
    | .error fault => fault.reason?.getD "invalid request"
    | .ok _ => "no network"
  Run.fail (.webhook request.url reason)

/-- The collaborators of an evaluation without a network. -/
def collaborators : Collaborators World := { World.collaborators with post := refusePost }

/-- Decide the step of a fixture. -/
def decideFixture (settings : Settings) (fixture : Fixture) (now : Instant) :
    Except Failure Outcome :=
  let cache := SubscriberCache.empty settings.cacheTtlMs settings.cacheCapacity
  let world : World := { store := fixture.store, now := now }
  (decideStep collaborators settings.signatureHeader (fixture.filters.getD []) fixture.context
    ⟨world, cache⟩).1

/-- The text of a failure. -/
def failureText (e : Failure) : String := e.message?.getD "invalid document"

namespace Action

/-- Do an action with a file of this name and content. The settings are read before the file, and
only where they are needed. -/
def report (env : List (String × String)) (file : String) (content : Option ByteArray)
    (now : Instant) : Action → Report
  | .evaluate =>
    match Settings.ofLookup fun name => env.lookup name with
    | .error e => Report.failure (failureText e)
    | .ok settings =>
      match Loader.fixture file content with
      | .error _ => Report.failure ("Failed to load fixture " ++ file)
      | .ok fixture =>
        match decideFixture settings fixture now with
        | .error e => Report.failure (failureText e)
        | .ok outcome => Report.value outcome.toJson
  | .summarize =>
    match Loader.conditions file content with
    | .error _ => Report.failure ("Failed to load conditions " ++ file)
    | .ok conditions => Report.value (Usage.ofConditions conditions).toJson

end Action

namespace Invocation

/-- The file that has to be read. -/
def file? : Invocation → Option String
  | .run _ file => some file
  | _ => none

/-- Do what a command line asks for, given the variables, the content of its file and the time. -/
def report (env : List (String × String)) (content : Option ByteArray) (now : Instant) :
    Invocation → Report
  | .run action file => action.report env file content now
  | .explain text => Report.success text
  | .misuse => Report.misuse

end Invocation

end Command

end DeliveryGate
