import DeliveryGate.Proofs.Evaluation.ClockStill
import DeliveryGate.Proofs.Evaluation.Webhook
import DeliveryGate.Proofs.Walk.Visit

/-!
# Requests of a run

The log of a service only grows, and only a webhook leaf that is visited adds a request. So each
request of a run was sent by such a leaf, in one of the evaluations, and has what the leaf gives it.
`run_requests_signed` puts this together.
-/

namespace DeliveryGate

variable {σ : Type}

/-! ### Lists that grow -/

/-- A list was extended, and each item that was added fits its place. -/
def Extends {α : Type} (fits : Nat → α → Prop) (before after : List α) : Prop :=
  before <+: after ∧ ∀ n a, before.length ≤ n → after[n]? = some a → fits n a

namespace Extends

variable {α : Type} {fits fits' : Nat → α → Prop} {before middle after : List α}

theorem refl (before : List α) : Extends fits before before := by
  refine ⟨List.prefix_refl before, fun n a hn h => ?_⟩
  rw [List.getElem?_eq_none hn] at h
  cases h

theorem mono (h : Extends fits before after) (hfits : ∀ n a, fits n a → fits' n a) :
    Extends fits' before after := ⟨h.1, fun n a hn ha => hfits n a (h.2 n a hn ha)⟩

theorem trans (h : Extends fits before middle) (h' : Extends fits middle after) :
    Extends fits before after := by
  refine ⟨h.1.trans h'.1, fun n a hn ha => ?_⟩
  by_cases hmiddle : n < middle.length
  · obtain ⟨more, rfl⟩ := h'.1
    rw [List.getElem?_append_left hmiddle] at ha
    exact h.2 n a hn ha
  · exact h'.2 n a (Nat.le_of_not_lt hmiddle) ha

theorem concat {a : α} (ha : fits before.length a) : Extends fits before (before ++ [a]) := by
  refine ⟨List.prefix_append before [a], fun n b hn hb => ?_⟩
  rw [List.getElem?_append_right hn, List.getElem?_singleton] at hb
  split at hb
  · rename_i hzero
    obtain rfl := Option.some.inj hb
    rwa [show n = before.length by omega]
  · cases hb

/-- What was added as a list of its own. -/
theorem exists_added (h : Extends fits before after) :
    ∃ added, after = before ++ added ∧ ∀ a ∈ added, ∃ n, fits n a := by
  obtain ⟨⟨added, rfl⟩, hfits⟩ := h
  refine ⟨added, rfl, fun a ha => ?_⟩
  obtain ⟨n, hn⟩ := List.mem_iff_getElem?.mp ha
  refine ⟨before.length + n, hfits _ a (Nat.le_add_right ..) ?_⟩
  rw [List.getElem?_append_right (Nat.le_add_right ..), Nat.add_sub_cancel_left, hn]

end Extends

/-! ### Requests of an evaluation -/

namespace Service

section

variable (c : Collaborators σ) (header : String) (service : Service σ) (filters : List Node)
  (ctx : Context)

/-- In an evaluation of a service, a leaf is visited with these variables in this state. -/
def Visits (vars : Variables) (l : Leaf) (s : EvaluatorState (σ × List Call)) : Prop :=
  ∃ begun finished,
    variablesOf (service.collaborators c) ctx service.evaluator = (.ok vars, begun) ∧
      Visited (service.collaborators c) header ctx vars filters begun finished l s

/-- In an evaluation of a service, a webhook leaf with this url is visited after `n` requests, and
it sends this one. -/
def Sends (url : String) (n : Nat) (request : Request) : Prop :=
  ∃ vars test s, service.Visits c header filters ctx vars (.webhook url test) s ∧
    s.requests.length = n ∧
    (checkLeaf (service.collaborators c) header ctx vars (.webhook url test) s).2.requests
      = s.requests ++ [request]

variable {c header service filters ctx}

/-- A leaf that is visited sends nothing, or it is a webhook leaf and sends one request. -/
theorem Visits.extends {vars : Variables} {l : Leaf} {s : EvaluatorState (σ × List Call)}
    (h : service.Visits c header filters ctx vars l s) :
    Extends (fun n request => ∃ url, service.Sends c header filters ctx url n request) s.requests
      (checkLeaf (service.collaborators c) header ctx vars l s).2.requests := by
  cases hkind : l.isWebhook with
  | false =>
    rw [collaborators, checkLocalLeaf_requests hkind]
    exact .refl _
  | true =>
    obtain ⟨url, test, rfl⟩ := Leaf.eq_webhook hkind
    rcases checkWebhook_cases c service.store header ctx vars url test s with
      ⟨e, -, hsame, -⟩ | ⟨subscriber, signature, -, -, hsent⟩
    · rw [collaborators, hsame]
      exact .refl _
    · have hsends : service.Sends c header filters ctx url s.requests.length
          ⟨url, requestBody ctx subscriber, [(header, signature)]⟩ := ⟨vars, test, s, h, rfl, hsent⟩
      rw [collaborators, hsent]
      exact .concat ⟨url, hsends⟩

/-- Along the steps of an evaluation the log only grows. -/
theorem advances_extends {vars : Variables} {begun s t : EvaluatorState (σ × List Call)}
    (hvars : variablesOf (service.collaborators c) ctx service.evaluator = (.ok vars, begun))
    (h : Relation.ReflTransGen
      (Advances (service.collaborators c) header ctx vars filters begun) s t) :
    Extends (fun n request => ∃ url, service.Sends c header filters ctx url n request) s.requests
      t.requests := by
  induction h with
  | refl => exact .refl _
  | tail _ hstep ih =>
    refine ih.trans ?_
    cases hstep with
    | answer hvisited => exact Visits.extends ⟨begun, _, hvars, hvisited⟩
    | record =>
      rw [collaborators, recordAudit_requests]
      exact .refl _

/-- A request that is sent is put together from the subscriber part at this moment and the signature
of the store. -/
theorem Sends.request_eq {url : String} {n : Nat} {request : Request}
    (h : service.Sends c header filters ctx url n request) :
    ∃ vars test s subscriber signature,
      service.Visits c header filters ctx vars (.webhook url test) s ∧
      (requestSubscriber (service.collaborators c) ctx vars s).1 = .ok subscriber ∧
      service.store.signature ctx = .ok signature ∧
      request = ⟨url, requestBody ctx subscriber, [(header, signature)]⟩ := by
  obtain ⟨vars, test, s, hvisits, -, hsent⟩ := h
  rcases checkWebhook_cases c service.store header ctx vars url test s with
    ⟨e, -, hsame, -⟩ | ⟨subscriber, signature, hsubscriber, hsignature, hsent'⟩
  · rw [collaborators, hsame] at hsent
    simp at hsent
  · rw [collaborators, hsent'] at hsent
    obtain rfl := List.singleton_injective (List.append_cancel_left hsent)
    exact ⟨vars, test, s, subscriber, signature, hvisits, hsubscriber, hsignature, rfl⟩

/-- What is sent goes to the url of the leaf and is signed by the store of the service. -/
theorem Sends.signedFor {url : String} {n : Nat} {request : Request}
    (h : service.Sends c header filters ctx url n request) :
    request.SignedFor service.store header ctx url := by
  obtain ⟨-, -, -, subscriber, signature, -, -, hsignature, rfl⟩ := h.request_eq
  exact Request.signedFor_of_signature hsignature subscriber

variable (c header service filters ctx) in
/-- The requests that an evaluation adds are sent by webhook leaves that it visits. -/
theorem evaluate_extends :
    Extends (fun n request => ∃ url, service.Sends c header filters ctx url n request)
      service.requests (service.evaluate c header filters ctx).2.requests := by
  change Extends _ service.evaluator.requests
    (decideStep (service.collaborators c) header filters ctx service.evaluator).2.requests
  have hvariables : (variablesOf (service.collaborators c) ctx service.evaluator).2.requests
      = service.evaluator.requests := variablesOf_requests service.evaluator
  rw [decideStep]
  split
  · exact .refl _
  rcases hvars : variablesOf (service.collaborators c) ctx service.evaluator with ⟨e | vars, begun⟩
    <;> rw [hvars] at hvariables
  · rw [Run.bind_of_error hvars, hvariables]
    exact .refl _
  · rw [Run.bind_of_ok hvars, Run.bind_pure_snd, ← hvariables]
    have hstart : Reached (service.collaborators c) header ctx vars filters begun [] [] begun :=
      .start
    exact advances_extends hvars (hstart.advances rfl)

end

/-! ### Evaluations while the clock stands still -/

section

variable {c : Collaborators σ} {header : String} {service : Service σ} {filters : List Node}
  {ctx : Context} {kind : σ → Prop} {now : Instant} {found : Option Subscriber}

variable (ctx now) in
/-- Whatever the cache holds, there is something that lookups at this time find. -/
theorem exists_finding (hkind : kind service.evaluator.world.1) :
    ∃ found, service.evaluator.Finding kind service.store ctx now found := by
  cases hprobe : service.evaluator.cache.probe (ctx.environmentId, ctx.subscriberId) now with
  | none =>
    refine ⟨service.store.findSubscriber ctx.environmentId ctx.subscriberId, hkind, ?_⟩
    rw [SubscriberCache.answer, hprobe]
  | some subscriber =>
    refine ⟨some subscriber, hkind, ?_⟩
    rw [SubscriberCache.answer, hprobe]

/-- What lookups find at first, they find wherever the evaluation comes. -/
theorem Visits.finding (hc : c.ClockStill kind now)
    (hfinding : service.evaluator.Finding kind service.store ctx now found) {vars : Variables}
    {l : Leaf} {s : EvaluatorState (σ × List Call)}
    (h : service.Visits c header filters ctx vars l s) :
    s.Finding kind service.store ctx now found := by
  obtain ⟨begun, finished, hvars, conditions, filter, hreached, -⟩ := h
  have halike : Alike (fun s t => s = t ∧ s.Finding kind service.store ctx now found)
      (service.collaborators c) (service.collaborators c) ctx := alike_finding hc
  have hbegun := Run.related_self_iff.mp (variablesOf_related halike.toLookupsAlike) _ hfinding
  rw [hvars] at hbegun
  refine hreached.invariant ?_ ?_ hbegun
  · intro l
    exact Run.related_self_iff.mp (checkLeaf_related halike.toWebhooksAlike l)
  · intro trace passed
    exact Run.related_self_iff.mp (recordAudit_related halike trace passed)

/-- All requests of an evaluation have the same body and the same headers. -/
theorem Sends.uniform (hc : c.ClockStill kind now) (hkind : kind service.evaluator.world.1)
    {url url' : String} {n n' : Nat} {request other : Request}
    (h : service.Sends c header filters ctx url n request)
    (h' : service.Sends c header filters ctx url' n' other) :
    request.body = other.body ∧ request.headers = other.headers := by
  obtain ⟨found, hfinding⟩ := exists_finding ctx now hkind
  obtain ⟨vars, test, s, subscriber, signature, hvisits, hsubscriber, hsignature, rfl⟩ :=
    h.request_eq
  obtain ⟨vars', test', s', subscriber', signature', hvisits', hsubscriber', hsignature', rfl⟩ :=
    h'.request_eq
  have hvars : vars = vars' := by
    obtain ⟨begun, -, hvars, -⟩ := hvisits
    obtain ⟨begun', -, hvars', -⟩ := hvisits'
    cases hvars.symm.trans hvars'
    rfl
  obtain rfl := requestSubscriber_finding hc (hvisits.finding hc hfinding) hsubscriber
  obtain rfl := requestSubscriber_finding hc (hvisits'.finding hc hfinding) hsubscriber'
  cases hsignature.symm.trans hsignature'
  exact ⟨congrArg (fun vars : Variables => requestBody ctx (vars.subscriber.getD _)) hvars, rfl⟩

end

/-! ### Leaves that send and leaves that decline -/

section

variable (c : Collaborators σ) (header : String) (service : Service σ) (ctx : Context)
  (vars : Variables) (url : String) (test : FieldTest) (s : EvaluatorState (σ × List Call))

/-- A webhook leaf fails for this reason and sends nothing. -/
def Declines (e : Failure) : Prop :=
  (checkLeaf (service.collaborators c) header ctx vars (.webhook url test) s).1 = .error e ∧
    (checkLeaf (service.collaborators c) header ctx vars (.webhook url test) s).2.requests
      = s.requests

variable {c header service ctx vars s} {kind : σ → Prop} (hc : c.RowsAvailable kind)
  (hs : kind s.world.1)
include hc hs

/-- If lookups do not fail, then a webhook leaf declines where the store cannot sign. -/
theorem declines_of_signature {e : Failure} (hsignature : service.store.signature ctx = .error e) :
    service.Declines c header ctx vars url test s e := by
  rcases checkWebhook_available header hc hs url test with
    ⟨e', hreason, hfail, hsame⟩ | ⟨_, _, hsigned, -⟩
  · obtain rfl := Except.error.inj (hreason.symm.trans hsignature)
    exact ⟨hfail, hsame⟩
  · cases hsigned.symm.trans hsignature

/-- If lookups do not fail, then a webhook leaf that is visited sends a request where the store can
sign it. -/
theorem sends_of_signature {filters : List Node} {signature : String}
    (h : service.Visits c header filters ctx vars (.webhook url test) s)
    (hsignature : service.store.signature ctx = .ok signature) :
    ∃ request, service.Sends c header filters ctx url s.requests.length request := by
  rcases checkWebhook_available header hc hs url test with
    ⟨_, hreason, -, -⟩ | ⟨_, request, -, hsent⟩
  · cases hreason.symm.trans hsignature
  · exact ⟨request, vars, test, s, h, rfl, hsent⟩

end

/-! ### Requests of a run -/

variable (c : Collaborators σ) (header : String)

/-- The requests that a run adds are sent in its evaluations. -/
theorem run_extends : ∀ (service : Service σ) (events : List (Event σ)),
    Extends (fun n request => ∃ before filters ctx after url,
        events = before ++ .evaluate filters ctx :: after ∧
          (service.run c header before).2.Sends c header filters ctx url n request)
      service.requests (service.run c header events).2.requests
  | service, [] => .refl _
  | service, event :: rest => by
    refine .trans ?_ ((run_extends (service.step c header event).2 rest).mono
      fun n request h => ?_)
    · cases event with
      | evaluate filters ctx =>
        refine (evaluate_extends c header service filters ctx).mono fun n request h => ?_
        obtain ⟨url, hsends⟩ := h
        exact ⟨[], filters, ctx, rest, url, rfl, hsends⟩
      | insert row => exact .refl _
      | outside change => exact .refl _
    · obtain ⟨before, filters, ctx, after, url, rfl, hsends⟩ := h
      exact ⟨event :: before, filters, ctx, after, url, rfl, hsends⟩

/-- While the clock stands still, the requests that an evaluation adds differ in their urls only. -/
theorem evaluate_uniform {kind : σ → Prop} {now : Instant} (hc : c.ClockStill kind now)
    {service : Service σ} (hkind : kind service.evaluator.world.1) (filters : List Node)
    (ctx : Context) :
    ∃ sent, (service.evaluate c header filters ctx).2.requests = service.requests ++ sent ∧
      ∀ request ∈ sent, ∀ other ∈ sent,
        request.body = other.body ∧ request.headers = other.headers := by
  obtain ⟨sent, hsent, hsends⟩ := (evaluate_extends c header service filters ctx).exists_added
  refine ⟨sent, hsent, fun request hrequest other hother => ?_⟩
  obtain ⟨n, url, h⟩ := hsends request hrequest
  obtain ⟨n', url', h'⟩ := hsends other hother
  exact h.uniform hc hkind h'

/-- Each request of a run was sent in one of its evaluations by a webhook leaf that was visited: it
went to the url of the leaf and was signed by the row that the store had then. Unless a lookup
fails, a webhook leaf that is visited sends a request if there is such a row with a key, and
otherwise fails and sends nothing. And while the clock stands still, all requests of an evaluation
have the same body and the same headers. -/
theorem run_requests_signed (store : Store) (world : σ) (ttlMs capacity : Nat) :
    (∀ events n request,
      ((start store world ttlMs capacity).run c header events).2.requests[n]? = some request →
      ∃ before filters ctx after url, events = before ++ .evaluate filters ctx :: after ∧
        let service := ((start store world ttlMs capacity).run c header before).2
        service.Sends c header filters ctx url n request ∧
          request.SignedFor service.store header ctx url) ∧
    (∀ kind, c.RowsAvailable kind → ∀ (service : Service σ) filters ctx vars url test s,
      service.Visits c header filters ctx vars (.webhook url test) s → kind s.world.1 →
      ((∀ environment, service.store.environments.lookup ctx.environmentId = some environment →
          environment.organizationId ≠ ctx.organizationId) →
        service.Declines c header ctx vars url test s (.environmentNotFound ctx.environmentId)) ∧
      ∀ environment, service.store.environments.lookup ctx.environmentId = some environment →
        environment.organizationId = ctx.organizationId →
        (environment.apiKeys = [] →
          service.Declines c header ctx vars url test s (.missingApiKey ctx.environmentId)) ∧
        (environment.apiKeys ≠ [] →
          ∃ request, service.Sends c header filters ctx url s.requests.length request)) ∧
    (∀ kind now, c.ClockStill kind now → ∀ (service : Service σ) filters ctx,
      kind service.evaluator.world.1 →
      ∃ sent, (service.evaluate c header filters ctx).2.requests = service.requests ++ sent ∧
        ∀ request ∈ sent, ∀ other ∈ sent,
          request.body = other.body ∧ request.headers = other.headers) := by
  refine ⟨fun events n request h => ?_, ?_, ?_⟩
  · obtain ⟨before, filters, ctx, after, url, hevents, hsends⟩ :=
      (run_extends c header (start store world ttlMs capacity) events).2 n request (Nat.zero_le n) h
    exact ⟨before, filters, ctx, after, url, hevents, hsends, hsends.signedFor⟩
  · intro kind hc service filters ctx vars url test s hvisits hs
    refine ⟨fun hforeign => ?_, fun environment hrow horganization => ⟨?_, ?_⟩⟩
    · exact declines_of_signature url test hc hs (Store.signature_of_foreign hforeign)
    · intro hkeys
      exact declines_of_signature url test hc hs
        (Store.signature_of_keyless hrow horganization hkeys)
    · intro hkeys
      obtain ⟨key, others, hkeys⟩ := List.exists_cons_of_ne_nil hkeys
      exact sends_of_signature url test hc hs hvisits
        (Store.signature_eq_ok_iff.mpr ⟨environment, key, others, hrow, horganization, hkeys, rfl⟩)
  · intro kind now hc service filters ctx hkind
    exact evaluate_uniform c header hc hkind filters ctx

/-- The first key of the environment is replaced between two evaluations. -/
def keyChanges : List (Event World) :=
  [.evaluate [.asksWebhook "https://a.test" "no"] Context.sample,
    .insert (.environment ⟨"env-1", "org-1", ["newer", "secret"]⟩),
    .evaluate [.asksWebhook "https://a.test" "yes"] Context.sample]

/-- An environment that has lost its keys. -/
def keyless : Store := Store.ofRows [.environment ⟨"env-1", "org-1", []⟩]

/-- The second request is signed by the row with the new key. Where the environment has no row, or
its row no key, a webhook leaf declines. Two webhooks get the same body and headers. -/
theorem run_requests_signed_keyChanges :
    let service := ((start World.sample.store World.sample 1000 10).run World.collaborators
      "signature" keyChanges).2
    (∃ request, service.requests[1]? = some request ∧
      ∃ before filters ctx after url, keyChanges = before ++ .evaluate filters ctx :: after ∧
        request.SignedFor ((start World.sample.store World.sample 1000 10).run World.collaborators
          "signature" before).2.store "signature" ctx url) ∧
    (∃ vars s, (start {} World.sample 1000 10).Declines World.collaborators "signature"
      Context.sample vars "https://a.test" ⟨"ok", .equal, "yes"⟩ s (.environmentNotFound "env-1")) ∧
    (∃ vars s, (start keyless World.sample 1000 10).Declines World.collaborators "signature"
      Context.sample vars "https://a.test" ⟨"ok", .equal, "yes"⟩ s (.missingApiKey "env-1")) ∧
    ∃ sent, (service.evaluate World.collaborators "signature"
        [.asksWebhook "https://a.test" "no", .asksWebhook "https://b.test" "yes"]
        Context.sample).2.requests = service.requests ++ sent ∧
      ∀ request ∈ sent, ∀ other ∈ sent,
        request.body = other.body ∧ request.headers = other.headers := by
  obtain ⟨hsigned, hdeclines, huniform⟩ :=
    run_requests_signed World.collaborators "signature" World.sample.store World.sample 1000 10
  have hawaits : (Node.asksWebhook "https://a.test" "yes").replay []
      = .awaits (.webhook "https://a.test" ⟨"ok", .equal, "yes"⟩) := by
    rw [Node.asksWebhook, Node.replay]
  have hdeclines := fun store vars s => hdeclines _ World.rowsAvailable_collaborators
    (start store World.sample 1000 10) [.asksWebhook "https://a.test" "yes"] Context.sample vars
    "https://a.test" ⟨"ok", .equal, "yes"⟩ s
  refine ⟨?_, ?_, ?_, ?_⟩
  · obtain ⟨before, filters, ctx, after, url, hevents, -, hrequest⟩ := hsigned keyChanges 1 _ rfl
    exact ⟨_, rfl, before, filters, ctx, after, url, hevents, hrequest⟩
  · obtain ⟨hforeign, -⟩ := hdeclines {} _ _ ⟨_, [], rfl, [], _, .start, rfl, hawaits⟩ rfl
    refine ⟨_, _, hforeign fun environment hrow => ?_⟩
    cases hrow
  · obtain ⟨-, hkeyless⟩ := hdeclines keyless _ _ ⟨_, [], rfl, [], _, .start, rfl, hawaits⟩ rfl
    exact ⟨_, _, (hkeyless _ rfl rfl).1 rfl⟩
  · exact huniform _ _ (World.clockStill_collaborators World.sample.now) _ _ _ rfl

end Service

end DeliveryGate
