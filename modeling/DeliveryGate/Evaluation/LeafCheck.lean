import DeliveryGate.Evaluation.Collaborators
import DeliveryGate.Signature.Hmac
import DeliveryGate.Wire.Record

/-!
# Answering leaves

How each kind of leaf is answered. Field leaves look into the variables, presence leaves at the
subscriber, previous-step leaves at the message of an earlier job, and webhook leaves at the answer
of a signed request. A subscriber that the context does not bring along comes through the cache.
-/

namespace DeliveryGate

/-! ### Presence -/

namespace Presence

/-- A subscriber with neither a flag nor a time of presence never satisfies a presence filter. -/
def isKnown (subscriber : Subscriber) : Bool :=
  subscriber.isOnline.isSome || subscriber.lastOnlineAt.isSome

def boolText (b : Bool) : String := if b then "true" else "false"

def intText (n : Int) : String := String.ofList (Json.renderInt n)

/-- The flag is set to what is expected. -/
def checkOnline (expected : Bool) (subscriber : Option Subscriber) : Condition :=
  let flag := subscriber.bind Subscriber.isOnline
  { filter := Kind.isOnline.name
    field := "isOnline"
    expected := boolText expected
    actual := boolText (flag.getD false)
    operator := .equal
    passed := flag == some expected }

/-- The subscriber is online, or was so at most `window` whole units ago. -/
def checkOnlineInLast (window : Int) (unit : TimeUnit) (subscriber : Option Subscriber)
    (now : Instant) : Condition :=
  let missed (actual : String) (passed : Bool) : Condition :=
    { filter := Kind.isOnlineInLast.name
      field := "lastOnlineAt"
      expected := intText window
      actual := actual
      operator := .larger
      passed := passed }
  match subscriber.filter isKnown with
  | none => missed "" false
  | some subscriber =>
    if subscriber.isOnline.getD false then
      { filter := Kind.isOnlineInLast.name
        field := "isOnline"
        expected := "true"
        actual := "true"
        operator := .larger
        passed := true }
    else
      match subscriber.lastOnlineAt with
      | none => missed "" false
      | some last =>
        let elapsed := unit.elapsed now last
        missed (intText elapsed) (0 ≤ elapsed && elapsed ≤ window)

end Presence

section

variable {σ : Type} (c : Collaborators σ)

/-! ### Subscribers -/

/-- A subscriber through the cache: a fresh entry is served without asking; what is fetched is kept
with the time after the fetch. -/
def lookupSubscriber (environmentId subscriberId : String) :
    Run (EvaluatorState σ) (Option Subscriber) := do
  let key := (environmentId, subscriberId)
  let state ← Run.get
  match state.cache.probe key (c.now state.world) with
  | some subscriber => return some subscriber
  | none =>
    let fetched ← EvaluatorState.call (c.findSubscriber environmentId subscriberId)
    Run.modify fun state =>
      { state with cache := state.cache.commit key fetched (c.now state.world) }
    return fetched

/-- A lookup is served from the cache; or the repository fails, and the cache stays as it is; or the
repository answers, and its answer is kept. -/
theorem lookupSubscriber_cases (environmentId subscriberId : String) (s : EvaluatorState σ) :
    (∃ subscriber, s.cache.probe (environmentId, subscriberId) (c.now s.world) = some subscriber ∧
      lookupSubscriber c environmentId subscriberId s = (.ok (some subscriber), s)) ∨
    s.cache.probe (environmentId, subscriberId) (c.now s.world) = none ∧
      ((∃ e w, c.findSubscriber environmentId subscriberId s.world = (.error e, w) ∧
        lookupSubscriber c environmentId subscriberId s = (.error e, ⟨w, s.cache⟩)) ∨
      ∃ found w, c.findSubscriber environmentId subscriberId s.world = (.ok found, w) ∧
        lookupSubscriber c environmentId subscriberId s = (.ok found,
          ⟨w, s.cache.commit (environmentId, subscriberId) found (c.now w)⟩)) := by
  rw [lookupSubscriber, Run.bind_of_ok (show Run.get s = (.ok s, s) from rfl)]
  cases hprobe : s.cache.probe (environmentId, subscriberId) (c.now s.world) with
  | some subscriber => exact Or.inl ⟨subscriber, rfl, rfl⟩
  | none =>
    refine Or.inr ⟨rfl, ?_⟩
    rcases hfind : c.findSubscriber environmentId subscriberId s.world with ⟨e | found, w⟩
    · have hcall : EvaluatorState.call (c.findSubscriber environmentId subscriberId) s
          = (.error e, ⟨w, s.cache⟩) := EvaluatorState.call_eq_iff.mpr ⟨hfind, rfl⟩
      exact Or.inl ⟨e, w, rfl, Run.bind_of_error hcall⟩
    · have hcall : EvaluatorState.call (c.findSubscriber environmentId subscriberId) s
          = (.ok found, ⟨w, s.cache⟩) := EvaluatorState.call_eq_iff.mpr ⟨hfind, rfl⟩
      exact Or.inr ⟨found, w, rfl, Run.bind_of_ok hcall⟩

/-- The subscriber whose presence is asked for: the snapshot of the context, if it has one. -/
def presenceSubscriber (ctx : Context) : Run (EvaluatorState σ) (Option Subscriber) :=
  match ctx.subscriber with
  | some subscriber => return some subscriber
  | none => lookupSubscriber c ctx.environmentId ctx.subscriberId

/-! ### Earlier steps -/

/-- The condition of an earlier step in which this happened, did not happen, or is not recorded. -/
def stepCondition (state : StepState) (actual : String) (passed : Bool) : Condition :=
  { filter := Kind.previousStep.name
    field := state.name
    expected := Presence.boolText (!state.isNegative)
    actual := actual
    operator := .equal
    passed := passed }

/-- The message of an earlier step. Without a job or a message the condition passes: work that was
queued before the step existed is not held back. Whether an email was opened is told by events. -/
def checkPreviousStep (ctx : Context) (step : String) (state : StepState) : Run σ Condition := do
  let job ← c.findJob ⟨ctx.transactionId, ctx.subscriberId, ctx.environmentId, step⟩
  match job with
  | none => return stepCondition state "" true
  | some job =>
    let message ← c.findMessage ctx.environmentId job.id
    match message with
    | none => return stepCondition state "" true
    | some message =>
      let happened ←
        if message.channel = .email then do
          let parent := ctx.job.bind CurrentJob.parentId
          let count ← c.countOpened ⟨ctx.environmentId, parent, message.id⟩
          pure (some (decide (0 < count)))
        else pure (if state.usesSeenFlag then message.seen else message.read)
      let actual := match happened with
        | some b => Presence.boolText b
        | none => actualText none
      return stepCondition state actual (happened == some (!state.isNegative))

/-! ### Webhooks -/

/-- The subscriber part of a request: that of the variables, or else whom the cache knows, or null.
-/
def requestSubscriber (ctx : Context) (vars : Variables) :
    Run (EvaluatorState σ) Json :=
  match vars.subscriber with
  | some subscriber => return subscriber
  | none => do
    let found ← lookupSubscriber c ctx.environmentId ctx.subscriberId
    return Json.ofOption Subscriber.toJson found

/-- The body of a request: the subscriber, and the payload of the context, or else that of its job,
or else an empty object. For a job it has its channel and provider too. -/
def requestBody (ctx : Context) (subscriber : Json) : Json :=
  let payload := (ctx.payload.or (ctx.job.bind CurrentJob.payload)).getD (.obj [])
  match ctx.job with
  | none => .obj [("payload", payload), ("subscriber", subscriber)]
  | some job =>
    .obj ([("channel", .str job.channel.name), ("payload", payload)]
      ++ Json.setField "providerId" .str job.providerId ++ [("subscriber", subscriber)])

/-- The signature of a request: the environment must belong to the context's organization and have
a key, of which the first is used. -/
def requestSignature (ctx : Context) : Run σ String := do
  let found ← c.findEnvironment ctx.environmentId ctx.organizationId
  let environment ← Run.ofOption (.environmentNotFound ctx.environmentId) found
  let key ← Run.ofOption (.missingApiKey ctx.environmentId) environment.apiKeys.head?
  return Signature.ofEnvironment key ctx.environmentId

/-- Send the signed request and compare a field of the answer. -/
def checkWebhook (header : String) (ctx : Context) (vars : Variables) (url : String)
    (test : FieldTest) : Run (EvaluatorState σ) Condition := do
  let subscriber ← requestSubscriber c ctx vars
  let signature ← EvaluatorState.call (requestSignature c ctx)
  let answer ← EvaluatorState.call
    (c.post ⟨url, requestBody ctx subscriber, [(header, signature)]⟩)
  return test.check Kind.webhook.name (some answer)

/-! ### All kinds -/

/-- Answer a leaf. -/
def checkLeaf (header : String) (ctx : Context) (vars : Variables) (leaf : Leaf) :
    Run (EvaluatorState σ) Condition :=
  match leaf with
  | .field source test => return test.check leaf.kind.name (vars.source source)
  | .webhook url test => checkWebhook c header ctx vars url test
  | .online expected => do
    let subscriber ← presenceSubscriber c ctx
    return Presence.checkOnline expected subscriber
  | .onlineInLast window unit => do
    let subscriber ← presenceSubscriber c ctx
    let state ← Run.get
    return Presence.checkOnlineInLast window unit subscriber (c.now state.world)
  | .previousStep step state => EvaluatorState.call (checkPreviousStep c ctx step state)

end

end DeliveryGate
