import DeliveryGate.Proofs.Evaluation.ClockStill
import DeliveryGate.Proofs.Evaluation.Webhook
import DeliveryGate.Proofs.Walk.Dialogue

/-!
# One subscriber for an evaluation

The variables, the leaves about presence and the requests of webhooks each get the subscriber on
their own, and the variables and the requests each work out the payload. `decideStep_oneSubscriber`
says that all of them agree: while the clock stands still and the row of the subscriber stays the
same, there is one subscriber, or none, on which the whole evaluation rests, whatever was in the
cache at first, and one payload.
-/

namespace DeliveryGate

variable {σ : Type}

/-- A condition is what a leaf finds for this subscriber and the payload of the context, or else of
its job. Other leaves may find what they like. -/
def Leaf.RestsOn (ctx : Context) (now : Instant) (subscriber : Option Subscriber) :
    Leaf → Condition → Prop
  | .field .payload test, condition =>
    condition = test.check Kind.payload.name (ctx.payload.or (ctx.job.bind CurrentJob.payload))
  | .field .subscriber test, condition =>
    condition = test.check Kind.subscriber.name (subscriber.map Subscriber.toJson)
  | .online expected, condition => condition = Presence.checkOnline expected subscriber
  | .onlineInLast window unit, condition =>
    condition = Presence.checkOnlineInLast window unit subscriber now
  | _, _ => True

/-- The body of a request has this subscriber, or null, and the payload of the context, or else of
its job, or else an empty object. -/
structure Request.Carries (ctx : Context) (subscriber : Option Subscriber) (request : Request) :
    Prop where
  subscriber : request.body.get? "subscriber" = some (Json.ofOption Subscriber.toJson subscriber)
  payload : request.body.get? "payload"
    = some ((ctx.payload.or (ctx.job.bind CurrentJob.payload)).getD (.obj []))

/-- An outcome, and the requests that were sent on the way to it, rest on one subscriber and on the
payload of the context, or else of its job. -/
structure Outcome.RestsOn (ctx : Context) (now : Instant) (subscriber : Option Subscriber)
    (outcome : Outcome) (sent : List Request) : Prop where
  vars : outcome.vars.subscriber = subscriber.map Subscriber.toJson
  payload : outcome.vars.payload = ctx.payload.or (ctx.job.bind CurrentJob.payload)
  /-- Every condition is the answer of a leaf. -/
  conditions : outcome.answers.map Prod.snd = outcome.conditions
  answers : ∀ answer ∈ outcome.answers, answer.1.RestsOn ctx now subscriber answer.2
  requests : ∀ request ∈ sent, request.Carries ctx subscriber

/-- A request carries the subscriber that was found for it, and the payload that the variables
have: the two fallbacks agree. -/
theorem requestBody_get? (ctx : Context) (subscriber : Json) :
    (requestBody ctx subscriber).get? "subscriber" = some subscriber ∧
      (requestBody ctx subscriber).get? "payload"
        = some (ctx.baseVariables.payload.getD (.obj [])) := by
  rw [requestBody, Context.baseVariables]
  rcases ctx.job with _ | ⟨id, parentId, channel, _ | providerId, payload⟩ <;> exact ⟨rfl, rfl⟩

section

variable {c : Collaborators σ} {kind : σ → Prop} {header : String} {ctx : Context}
  {vars : Variables} {now : Instant} {row found : Option Subscriber}
  {s t : EvaluatorState (σ × List Call)}

theorem presenceSubscriber_yielding (hc : c.ClockStill kind now) (hfetch : c.Fetches kind ctx row)
    (hs : s.Yielding kind ctx now row found) {answer : Option Subscriber}
    (h : presenceSubscriber c.recorded ctx s = (.ok answer, t)) :
    answer = ctx.subscriber.or found ∧ t.Yielding kind ctx now row found := by
  rw [presenceSubscriber] at h
  cases hsnapshot : ctx.subscriber with
  | some subscriber =>
    rw [hsnapshot] at h
    cases h
    exact ⟨rfl, hs⟩
  | none =>
    simp only [hsnapshot] at h
    obtain ⟨hanswer, ht⟩ := lookupSubscriber_yielding hc hfetch hs
    rw [h] at hanswer ht
    exact ⟨hanswer answer rfl, ht⟩

/-- The subscriber part of a request is the subscriber on whom the variables rest. -/
theorem getD_ofOption (hvars : vars.subscriber = (ctx.subscriber.or found).map Subscriber.toJson) :
    vars.subscriber.getD (Json.ofOption Subscriber.toJson found)
      = Json.ofOption Subscriber.toJson (ctx.subscriber.or found) := by
  rw [hvars]
  cases hsubscriber : ctx.subscriber.or found with
  | some subscriber => rfl
  | none =>
    rw [(Option.or_eq_none_iff.mp hsubscriber).2]
    rfl

/-- If the variables rest on a subscriber, then so does what a leaf finds, and what it sends. -/
theorem checkLeaf_restsOn (hc : c.ClockStill kind now) (hfetch : c.Fetches kind ctx row)
    (hs : s.Yielding kind ctx now row found) (hpayload : vars.payload = ctx.baseVariables.payload)
    (hvars : vars.subscriber = (ctx.subscriber.or found).map Subscriber.toJson) {l : Leaf}
    {condition : Condition}
    (h : checkLeaf c.recorded header ctx vars l s = (.ok condition, t)) :
    l.RestsOn ctx now (ctx.subscriber.or found) condition ∧
      ∃ sent, t.requests = s.requests ++ sent ∧
        ∀ request ∈ sent, request.Carries ctx (ctx.subscriber.or found) := by
  have hlocal : l.isWebhook = false → ∃ sent, t.requests = s.requests ++ sent ∧
      ∀ request ∈ sent, request.Carries ctx (ctx.subscriber.or found) := by
    intro hl
    have hsame : (checkLeaf c.recorded header ctx vars l s).2.requests = s.requests :=
      checkLocalLeaf_requests hl s
    rw [h] at hsame
    exact ⟨[], hsame.trans (List.append_nil _).symm, fun _ hmem => nomatch hmem⟩
  cases l with
  | field source test =>
    refine ⟨?_, hlocal rfl⟩
    cases h
    cases source with
    | payload => exact congrArg _ hpayload
    | subscriber => exact congrArg _ hvars
    | tenant => trivial
  | webhook url test =>
    refine ⟨trivial, ?_⟩
    obtain ⟨subscriber, signature, s₁, hsubscriber, -, hcalls⟩ := checkWebhook_ok h
    have hsame : (requestSubscriber c.recorded ctx vars s).2.requests = s.requests :=
      requestSubscriber_requests s
    rw [hsubscriber] at hsame
    have hknown : subscriber = Json.ofOption Subscriber.toJson (ctx.subscriber.or found) :=
      (requestSubscriber_yielding hc hfetch hs (by rw [hsubscriber])).trans (getD_ofOption hvars)
    obtain ⟨hbody, hcarried⟩ := requestBody_get? ctx subscriber
    refine ⟨[⟨url, requestBody ctx subscriber, [(header, signature)]⟩], ?_,
      List.forall_mem_singleton.mpr ⟨hknown ▸ hbody, hcarried⟩⟩
    rw [← hsame, EvaluatorState.requests, hcalls, List.filterMap_append]
    rfl
  | online expected =>
    refine ⟨?_, hlocal rfl⟩
    obtain ⟨answer, s₁, hanswer, h⟩ := Run.bind_eq_ok_iff.mp h
    cases h
    rw [(presenceSubscriber_yielding hc hfetch hs hanswer).1]
    rfl
  | onlineInLast window unit =>
    refine ⟨?_, hlocal rfl⟩
    obtain ⟨answer, s₁, hanswer, h⟩ := Run.bind_eq_ok_iff.mp h
    obtain ⟨rfl, hs₁⟩ := presenceSubscriber_yielding hc hfetch hs hanswer
    cases h
    rw [Leaf.RestsOn, ← hc.now _ hs₁.world]
    rfl
  | previousStep step state => exact ⟨trivial, hlocal rfl⟩

/-- While the clock stands still and the row of the subscriber stays the same, a successful
evaluation for a context that brings or names a subscriber rests on one subscriber: the snapshot of
the context, or else the fresh entry of the cache, or else the row. It rests on one payload, that of
the context, or else of its job, and requests carry an empty object if there is none. -/
theorem decideStep_oneSubscriber (hc : c.ClockStill kind now) (hfetch : c.Fetches kind ctx row)
    {filters : List Node} {start stop : EvaluatorState (σ × List Call)} {outcome : Outcome}
    (hkind : kind start.world.1) (hctx : ctx.subscriber.isSome ∨ ctx.subscriberId ≠ "")
    (hne : filters ≠ [])
    (h : decideStep c.recorded header filters ctx start = (.ok outcome, stop)) :
    ∃ sent, stop.requests = start.requests ++ sent ∧
      outcome.RestsOn ctx now (ctx.subscriber.or
        ((start.cache.probe (ctx.environmentId, ctx.subscriberId) now).or row)) sent := by
  obtain ⟨hanswers, begun, hvars, hdialogue⟩ := decideStep_dialogue hne h
  obtain ⟨found, hfound⟩ : ∃ found,
    (start.cache.probe (ctx.environmentId, ctx.subscriberId) now).or row = found := ⟨_, rfl⟩
  have hstart : start.Yielding kind ctx now row found :=
    EvaluatorState.yielding_iff.mpr ⟨hkind, hfound⟩
  obtain ⟨hbegun, hpayload, hsubscriber⟩ := variablesOf_yielding hc hfetch hstart hvars
  have hunsent : (variablesOf c.recorded ctx start).2.requests = start.requests :=
    variablesOf_requests start
  rw [hvars] at hunsent
  have hknown : outcome.vars.subscriber = (ctx.subscriber.or found).map Subscriber.toJson := by
    rw [hsubscriber]
    rcases hctx with hsnapshot | hid
    · obtain ⟨subscriber, hsnapshot⟩ := Option.isSome_iff_exists.mp hsnapshot
      rw [hsnapshot]
      rfl
    · rw [if_neg hid]
  rw [hfound]
  -- what was sent so far is carried along with what lookups find
  have hall := hdialogue.invariant
    (fun s => s.Yielding kind ctx now row found ∧ ∃ sent, s.requests = start.requests ++ sent ∧
      ∀ request ∈ sent, request.Carries ctx (ctx.subscriber.or found))
    (Leaf.RestsOn ctx now (ctx.subscriber.or found))
  obtain ⟨⟨-, sent, hsent, hcarries⟩, hrests⟩ := hall
    (by
      rintro l condition s t ⟨hs, sent, hsent, hcarries⟩ hcheck
      obtain ⟨hrests, more, hmore, hcarries'⟩ :=
        checkLeaf_restsOn hc hfetch hs hpayload hknown hcheck
      have ht := checkLeaf_yielding hc hfetch hs header outcome.vars l
      rw [hcheck] at ht
      refine ⟨⟨ht, sent ++ more, ?_, List.forall_mem_append.mpr ⟨hcarries, hcarries'⟩⟩, hrests⟩
      rw [hmore, hsent, List.append_assoc])
    (by
      rintro trace passed s ⟨hs, sent, hsent, hcarries⟩
      exact ⟨recordAudit_yielding hc hfetch hs trace passed, sent,
        (recordAudit_requests trace passed s).trans hsent, hcarries⟩)
    ⟨hbegun, [], hunsent.trans (List.append_nil _).symm, fun _ hmem => nomatch hmem⟩
  exact ⟨sent, hsent, hknown, hpayload, hanswers, hrests, hcarries⟩

/-- The sample with its payload moved to the job. -/
def Context.queued : Context :=
  { Context.sample with
    payload := none
    job := some ⟨"job-1", none, .email, none, some (.obj [("plan", .str "pro")])⟩ }

/-- Leaves about the payload, about presence and about a webhook, which all pass for the queued job.
-/
def Node.asksQueued : Node :=
  .group .and [.asksPlan "pro", .leaf (.online true), .asksWebhook "https://a.test" "yes"]

/-- The queued job names a subscriber who is online and brings the payload: the answers about both
and the one request of the webhook rest on its row and on this payload. -/
theorem decideStep_oneSubscriber_queued :
    ∃ outcome stop request,
      decideStep (World.collaborators.over World.sample.store).recorded "signature"
        [.asksQueued] Context.queued EvaluatorState.sample.recording = (.ok outcome, stop) ∧
      stop.requests = [request] ∧ outcome.conditions.length = 3 ∧
      outcome.vars.payload = some (.obj [("plan", .str "pro")]) ∧
      request.body.get? "payload" = some (.obj [("plan", .str "pro")]) ∧
      request.body.get? "subscriber"
        = some (Subscriber.toJson { id := "sub-1", isOnline := some true }) ∧
      outcome.RestsOn Context.queued World.sample.now
        (some { id := "sub-1", isOnline := some true }) [request] := by
  obtain ⟨outcome, stop, hdecide, hlength, hconditions⟩ : ∃ outcome stop,
      decideStep (World.collaborators.over World.sample.store).recorded "signature"
        [.asksQueued] Context.queued EvaluatorState.sample.recording = (.ok outcome, stop) ∧
      stop.requests.length = 1 ∧ outcome.conditions.length = 3 := ⟨_, _, rfl, rfl, rfl⟩
  obtain ⟨sent, hsent, hrests⟩ := decideStep_oneSubscriber
    ((World.clockStill_collaborators World.sample.now).over World.sample.store)
    (World.collaborators.fetches_over World.sample.store) rfl (Or.inr (by decide))
    (List.cons_ne_nil _ _) hdecide
  obtain rfl : stop.requests = sent := hsent
  obtain ⟨request, hrequest⟩ := List.length_eq_one_iff.mp hlength
  rw [hrequest] at hrests
  have hcarries := hrests.requests request (List.mem_singleton_self _)
  exact ⟨outcome, stop, request, hdecide, hrequest, hconditions, hrests.payload, hcarries.payload,
    hcarries.subscriber, hrests⟩

end

end DeliveryGate
