import DeliveryGate.Proofs.Evaluation.ClockStill
import DeliveryGate.Proofs.Evaluation.Webhook
import DeliveryGate.Proofs.Walk.Dialogue

/-!
# How many calls an evaluation makes

Every answered leaf makes calls of its own, which its kind and the store determine
(`Leaf.asks`), and it may look for the subscriber first (`checkLeaf_calls`). Summed up over the
dialogue of an evaluation this gives the number of calls of each repository (`decideStep_calls`).
Lookups of the subscriber depend on the cache: a subscriber who is stored and may be cached is
fetched at most once, and one who is not stored is fetched again for every leaf that needs it.
-/

namespace DeliveryGate

variable {σ : Type}

/-! ### Counting calls -/

/-- The repository that a call asked. -/
def Call.repository? : Call → Option Repository
  | .findSubscriber _ _ => some .subscribers
  | .findJob _ => some .jobs
  | .findMessage _ _ => some .messages
  | .countOpened _ => some .openedEvents
  | .findEnvironment _ _ => some .environments
  | .post _ => none
  | .keep _ => none

/-- How many of these calls asked a repository. -/
def Repository.calledIn (repository : Repository) (calls : List Call) : Nat :=
  calls.countP fun call => call.repository? == some repository

/-- How often a repository was asked so far. -/
def EvaluatorState.asked (s : EvaluatorState (σ × List Call)) (repository : Repository) : Nat :=
  repository.calledIn s.world.2

theorem Repository.calledIn_append (repository : Repository) (calls more : List Call) :
    repository.calledIn (calls ++ more) = repository.calledIn calls + repository.calledIn more :=
  List.countP_append

namespace Leaf

def isPresence : Leaf → Bool
  | .online _ | .onlineInLast _ _ => true
  | _ => false

def isPreviousStep : Leaf → Bool
  | .previousStep _ _ => true
  | _ => false

/-- The job of the earlier step that a leaf is about. -/
def job? (store : Store) (ctx : Context) : Leaf → Option Job
  | .previousStep step _ =>
    store.findJob ⟨ctx.transactionId, ctx.subscriberId, ctx.environmentId, step⟩
  | _ => none

/-- The message of the earlier step that a leaf is about. -/
def message? (store : Store) (ctx : Context) (l : Leaf) : Option Message :=
  (l.job? store ctx).bind fun job => store.findMessage ctx.environmentId job.id

/-- Whether a leaf is about an email of an earlier step. -/
def asksEmail (store : Store) (ctx : Context) (l : Leaf) : Bool :=
  (l.message? store ctx).any fun message => message.channel == .email

/-- Whether a leaf asks a repository besides looking for the subscriber. -/
def asks (store : Store) (ctx : Context) (l : Leaf) : Repository → Bool
  | .subscribers => false
  | .jobs => l.isPreviousStep
  | .messages => (l.job? store ctx).isSome
  | .openedEvents => l.asksEmail store ctx
  | .environments => l.isWebhook

/-- Whether a leaf looks for the subscriber. -/
def looksUp (ctx : Context) (vars : Variables) : Leaf → Bool
  | .online _ | .onlineInLast _ _ => ctx.subscriber.isNone
  | .webhook _ _ => vars.subscriber.isNone
  | _ => false

/-- These may be the calls of a leaf besides looking for the subscriber. -/
structure Makes (store : Store) (ctx : Context) (l : Leaf) (calls : List Call) : Prop where
  asked : ∀ repository : Repository,
    repository.calledIn calls = if l.asks store ctx repository then 1 else 0
  requests : (calls.filterMap Call.request?).length = if l.isWebhook then 1 else 0

end Leaf

/-- The calls for an earlier step: its job, the message of the job, and the events of an email. -/
def Store.stepCalls (store : Store) (ctx : Context) (step : String) : List Call :=
  let query := ⟨ctx.transactionId, ctx.subscriberId, ctx.environmentId, step⟩
  .findJob query :: match store.findJob query with
    | none => []
    | some job => .findMessage ctx.environmentId job.id ::
      match store.findMessage ctx.environmentId job.id with
      | none => []
      | some message =>
        if message.channel = .email then
          [.countOpened ⟨ctx.environmentId, ctx.job.bind CurrentJob.parentId, message.id⟩]
        else []

theorem Leaf.makes_stepCalls (store : Store) (ctx : Context) (step : String) (state : StepState) :
    (previousStep step state).Makes store ctx (store.stepCalls ctx step) := by
  have hasks : ∀ repository, (previousStep step state).asks store ctx repository =
      match repository with
      | .jobs => true
      | .messages => ((previousStep step state).job? store ctx).isSome
      | .openedEvents => (previousStep step state).asksEmail store ctx
      | _ => false := by
    rintro (_ | _) <;> rfl
  simp only [job?, message?, asksEmail] at hasks
  rw [Store.stepCalls]
  cases hjob : store.findJob ⟨ctx.transactionId, ctx.subscriberId, ctx.environmentId, step⟩ with
  | none =>
    refine ⟨fun repository => ?_, rfl⟩
    cases repository <;> simp [Repository.calledIn, Call.repository?, hasks, hjob]
  | some job =>
    cases hmessage : store.findMessage ctx.environmentId job.id with
    | none =>
      refine ⟨fun repository => ?_, by simp [hmessage, Call.request?, isWebhook]⟩
      cases repository <;> simp [Repository.calledIn, Call.repository?, hasks, hjob, hmessage]
    | some message =>
      by_cases hemail : message.channel = .email
      all_goals
        refine ⟨fun repository => ?_, by simp [hmessage, hemail, Call.request?, isWebhook]⟩
        cases repository <;>
          simp [Repository.calledIn, Call.repository?, hasks, hjob, hmessage, hemail]

/-! ### What an answer calls -/

/-- A lookup in a store that succeeds finds what is in the store, and is written down. -/
theorem Run.answering_recorded_ok {α β : Type} {x : Run σ β} {a b : α} {call : Call}
    {w w' : σ × List Call} (h : (x.answering a).recorded call w = (.ok b, w')) :
    b = a ∧ w'.2 = w.2 ++ [call] := by
  rw [answering_recorded] at h
  obtain ⟨hresult, rfl⟩ := Prod.mk.inj h
  refine ⟨?_, rfl⟩
  rcases hx : (x w.1).1 with e | row <;> rw [hx] at hresult <;> cases hresult
  rfl

section

variable {c : Collaborators σ} {store : Store} {header : String} {ctx : Context} {vars : Variables}

/-- An earlier step that is looked up makes just these calls. -/
theorem checkPreviousStep_calls {step : String} {state : StepState} {condition : Condition}
    {w w' : σ × List Call}
    (h : checkPreviousStep (c.over store).recorded ctx step state w = (.ok condition, w')) :
    w'.2 = w.2 ++ store.stepCalls ctx step := by
  obtain ⟨job, w₁, hjob, h⟩ := Run.bind_eq_ok_iff.mp h
  obtain ⟨rfl, hcalls₁⟩ := Run.answering_recorded_ok hjob
  rw [Store.stepCalls]
  cases hrow : store.findJob ⟨ctx.transactionId, ctx.subscriberId, ctx.environmentId, step⟩ with
  | none =>
    simp only [hrow] at h
    cases h
    exact hcalls₁
  | some job =>
    simp only [hrow] at h
    obtain ⟨message, w₂, hmessage, h⟩ := Run.bind_eq_ok_iff.mp h
    obtain ⟨rfl, hcalls₂⟩ := Run.answering_recorded_ok hmessage
    rw [hcalls₁, List.append_assoc] at hcalls₂
    cases hrow₂ : store.findMessage ctx.environmentId job.id with
    | none =>
      simp only [hrow₂] at h
      cases h
      rw [hcalls₂]
      simp [hrow₂]
    | some message =>
      simp only [hrow₂] at h
      split at h
      · rename_i hemail
        obtain ⟨happened, w₃, hcount, h⟩ := Run.bind_eq_ok_iff.mp h
        obtain ⟨-, hcalls₃⟩ := Run.answering_recorded_ok hcount
        cases h
        rw [hcalls₃, hcalls₂]
        simp [hrow₂, hemail]
      · rename_i hemail
        cases h
        rw [hcalls₂]
        simp [hrow₂, hemail]

/-- From one state to the next the subscriber was looked for if this says so, and else nothing
happened. -/
def LooksUpIf (c : Collaborators (σ × List Call)) (ctx : Context) (looks : Bool)
    (s t : EvaluatorState (σ × List Call)) : Prop :=
  if looks then ∃ found, lookupSubscriber c ctx.environmentId ctx.subscriberId s = (.ok found, t)
  else t = s

theorem presenceSubscriber_looksUpIf {c : Collaborators (σ × List Call)}
    {s t : EvaluatorState (σ × List Call)} {found : Option Subscriber}
    (h : presenceSubscriber c ctx s = (.ok found, t)) :
    LooksUpIf c ctx ctx.subscriber.isNone s t := by
  rw [presenceSubscriber] at h
  cases hsnapshot : ctx.subscriber with
  | none =>
    rw [hsnapshot] at h
    exact ⟨found, h⟩
  | some subscriber =>
    rw [hsnapshot] at h
    cases h
    rfl

theorem requestSubscriber_looksUpIf {c : Collaborators (σ × List Call)}
    {s t : EvaluatorState (σ × List Call)} {subscriber : Json}
    (h : requestSubscriber c ctx vars s = (.ok subscriber, t)) :
    LooksUpIf c ctx vars.subscriber.isNone s t := by
  rw [requestSubscriber] at h
  cases hvars : vars.subscriber with
  | none =>
    rw [hvars] at h
    obtain ⟨found, t', hlookup, h⟩ := Run.bind_eq_ok_iff.mp h
    cases h
    exact ⟨found, hlookup⟩
  | some known =>
    rw [hvars] at h
    cases h
    rfl

/-- A leaf that is answered looks for the subscriber if it has to, and then makes its own calls. -/
theorem checkLeaf_calls {l : Leaf} {condition : Condition} {s t : EvaluatorState (σ × List Call)}
    (h : checkLeaf (c.over store).recorded header ctx vars l s = (.ok condition, t)) :
    ∃ s₁ own, LooksUpIf (c.over store).recorded ctx (l.looksUp ctx vars) s s₁ ∧
      t.cache = s₁.cache ∧ t.world.2 = s₁.world.2 ++ own ∧ l.Makes store ctx own := by
  cases l with
  | field source test =>
    cases h
    refine ⟨s, [], rfl, rfl, (List.append_nil _).symm, ⟨?_, rfl⟩⟩
    rintro (_ | _) <;> rfl
  | webhook url test =>
    obtain ⟨subscriber, signature, s₁, hsubscriber, hcache, hcalls⟩ := checkWebhook_ok h
    refine ⟨s₁, _, requestSubscriber_looksUpIf hsubscriber, hcache, hcalls, ⟨?_, rfl⟩⟩
    rintro (_ | _) <;> rfl
  | online expected =>
    obtain ⟨found, s₁, hfound, h⟩ := Run.bind_eq_ok_iff.mp h
    cases h
    refine ⟨_, [], presenceSubscriber_looksUpIf hfound, rfl, (List.append_nil _).symm, ⟨?_, rfl⟩⟩
    rintro (_ | _) <;> rfl
  | onlineInLast window unit =>
    obtain ⟨found, s₁, hfound, h⟩ := Run.bind_eq_ok_iff.mp h
    cases h
    refine ⟨_, [], presenceSubscriber_looksUpIf hfound, rfl, (List.append_nil _).symm, ⟨?_, rfl⟩⟩
    rintro (_ | _) <;> rfl
  | previousStep step state =>
    obtain ⟨h, hcache⟩ := EvaluatorState.call_eq_iff.mp h
    exact ⟨s, _, rfl, hcache, checkPreviousStep_calls h, Leaf.makes_stepCalls ..⟩

/-! ### What looking for the subscriber calls -/

variable {kind : σ → Prop} {now : Instant} {row found : Option Subscriber}
  {s t : EvaluatorState (σ × List Call)}

/-- To look for the subscriber calls no repository but that of the subscribers, and sends nothing.
-/
theorem LooksUpIf.calls {looks : Bool} (h : LooksUpIf c.recorded ctx looks s t) :
    (∀ repository, repository ≠ .subscribers → t.asked repository = s.asked repository) ∧
      t.requests = s.requests := by
  have hcall : ∀ w, (∀ repository, repository ≠ Repository.subscribers →
      repository.calledIn (w ++ [Call.findSubscriber ctx.environmentId ctx.subscriberId])
        = repository.calledIn w) ∧
      (w ++ [Call.findSubscriber ctx.environmentId ctx.subscriberId]).filterMap Call.request?
        = w.filterMap Call.request? := by
    intro w
    refine ⟨fun repository hother => ?_, filterMap_concat_unseen rfl w rfl⟩
    rw [Repository.calledIn_append]
    cases repository with
    | subscribers => exact absurd rfl hother
    | _ => rfl
  cases looks with
  | false =>
    obtain rfl : t = s := h
    exact ⟨fun _ _ => rfl, rfl⟩
  | true =>
    obtain ⟨found, hlookup⟩ : ∃ found,
      lookupSubscriber c.recorded ctx.environmentId ctx.subscriberId s = (.ok found, t) := h
    rcases lookupSubscriber_cases c.recorded ctx.environmentId ctx.subscriberId s with
      ⟨subscriber, -, h⟩ | ⟨-, ⟨e, w, -, h⟩ | ⟨row, w, hfind, h⟩⟩ <;> cases hlookup.symm.trans h
    · exact ⟨fun _ _ => rfl, rfl⟩
    · obtain ⟨-, rfl⟩ := Prod.mk.inj hfind
      exact hcall s.world.2

/-- A subscriber who is not stored is fetched whenever someone looks. -/
theorem LooksUpIf.asked_of_unknown {looks : Bool} (hc : c.ClockStill kind now)
    (hfetch : c.Fetches kind ctx none) (hs : s.Yielding kind ctx now none none)
    (h : LooksUpIf c.recorded ctx looks s t) :
    t.asked .subscribers = s.asked .subscribers + if looks then 1 else 0 := by
  cases looks with
  | false =>
    obtain rfl : t = s := h
    rfl
  | true =>
    obtain ⟨found, hlookup⟩ : ∃ found,
      lookupSubscriber c.recorded ctx.environmentId ctx.subscriberId s = (.ok found, t) := h
    obtain ⟨hkind, hnone⟩ := EvaluatorState.yielding_iff.mp hs
    rw [Option.or_none] at hnone
    rcases lookupSubscriber_still hc hfetch hkind with
      ⟨subscriber, hprobe, -⟩ | ⟨-, w, -, ⟨e, h⟩ | h⟩
    · cases hnone.symm.trans hprobe
    · cases hlookup.symm.trans h
    · cases hlookup.symm.trans h
      exact Repository.calledIn_append ..

/-- How often the repository of the subscribers was asked, one more while the subscriber of the
context is not served by the cache. -/
def EvaluatorState.fetchBudget (ctx : Context) (now : Instant)
    (s : EvaluatorState (σ × List Call)) : Nat :=
  s.asked .subscribers
    + if (s.cache.probe (ctx.environmentId, ctx.subscriberId) now).isSome then 0 else 1

/-- A subscriber who is stored is served by the cache once it was fetched, so no further fetch is to
come. -/
theorem LooksUpIf.fetchBudget_le {looks : Bool} (hc : c.ClockStill kind now)
    {subscriber : Subscriber} (hfetch : c.Fetches kind ctx (some subscriber))
    (hs : kind s.world.1) (httl : s.cache.ttlMs ≠ 0) (h : LooksUpIf c.recorded ctx looks s t) :
    t.fetchBudget ctx now ≤ s.fetchBudget ctx now ∧ t.cache.ttlMs ≠ 0 := by
  cases looks with
  | false =>
    obtain rfl : t = s := h
    exact ⟨Nat.le_refl _, httl⟩
  | true =>
    obtain ⟨found, hlookup⟩ : ∃ found,
      lookupSubscriber c.recorded ctx.environmentId ctx.subscriberId s = (.ok found, t) := h
    rcases lookupSubscriber_still hc hfetch hs with
      ⟨subscriber, -, h⟩ | ⟨hprobe, w, -, ⟨e, h⟩ | h⟩
    · cases hlookup.symm.trans h
      exact ⟨Nat.le_refl _, httl⟩
    · cases hlookup.symm.trans h
    · cases hlookup.symm.trans h
      refine ⟨?_, by rwa [SubscriberCache.commit_ttlMs]⟩
      have hcalls : Repository.subscribers.calledIn
          (s.world.2 ++ [.findSubscriber ctx.environmentId ctx.subscriberId])
            = s.asked .subscribers + 1 := Repository.calledIn_append ..
      simp [EvaluatorState.fetchBudget, EvaluatorState.asked, hcalls, SubscriberCache.probe_commit,
        httl, hprobe]

theorem variablesOf_looksUpIf {c : Collaborators (σ × List Call)}
    (h : variablesOf c ctx s = (.ok vars, t)) :
    LooksUpIf c ctx (ctx.subscriber.isNone && !ctx.subscriberId.isEmpty) s t := by
  rw [variablesOf] at h
  have hbase : ctx.baseVariables.subscriber.isNone = ctx.subscriber.isNone := by
    simp [Context.baseVariables]
  rw [hbase] at h
  split at h
  · rename_i hasked
    obtain ⟨found, t', hlookup, h⟩ := Run.bind_eq_ok_iff.mp h
    cases h
    rw [hasked]
    exact ⟨found, hlookup⟩
  · rename_i hasked
    cases h
    rw [Bool.not_eq_true] at hasked
    rw [hasked]
    rfl

variable (c ctx) in
/-- Recording calls no repository and leaves the cache alone. -/
theorem recordAudit_calls (trace : Trace) (passed : Bool) (s : EvaluatorState (σ × List Call)) :
    (recordAudit c.recorded ctx trace passed s).2.cache = s.cache ∧
      ∀ repository, (recordAudit c.recorded ctx trace passed s).2.asked repository
        = s.asked repository := by
  cases hjob : ctx.job with
  | none =>
    rw [recordAudit_none c.recorded hjob]
    exact ⟨rfl, fun _ => rfl⟩
  | some job =>
    rw [recordAudit_some c.recorded hjob]
    exact ⟨rfl, fun repository => Repository.calledIn_append repository s.world.2 _⟩

end

/-! ### What an evaluation calls -/

/-- How many conditions of a kind were recorded. -/
def Outcome.count (outcome : Outcome) (kind : Kind) : Nat :=
  outcome.conditions.countP fun condition => condition.filter == kind.name

/-- What an evaluation that began and ended in these states called besides looking for the
subscriber. -/
structure Outcome.Called (store : Store) (ctx : Context) (outcome : Outcome)
    (start stop : EvaluatorState (σ × List Call)) : Prop where
  /-- Each answer of the outcome is one condition. -/
  answers : outcome.answers.map Prod.snd = outcome.conditions
  /-- One job for each condition of an earlier step. -/
  jobs : stop.asked .jobs = start.asked .jobs + outcome.count .previousStep
  /-- One message for each of them whose job is stored. -/
  messages : stop.asked .messages = start.asked .messages
    + outcome.answers.countP fun answer => (answer.1.job? store ctx).isSome
  /-- One count of events for each of them whose message is an email. -/
  openedEvents : stop.asked .openedEvents = start.asked .openedEvents
    + outcome.answers.countP fun answer => answer.1.asksEmail store ctx
  /-- One environment for each condition of a webhook. -/
  environments : stop.asked .environments = start.asked .environments + outcome.count .webhook
  /-- One request for each condition of a webhook. -/
  requests : stop.requests.length = start.requests.length + outcome.count .webhook

section

variable {c : Collaborators σ} {store : Store} {header : String} {ctx : Context} {vars : Variables}
  {kind : σ → Prop} {now : Instant} {start stop : EvaluatorState (σ × List Call)}
  {given : List (Leaf × Condition)}

theorem Dialogue.asked (h : Dialogue (c.over store).recorded header ctx vars start given stop)
    {repository : Repository} (hother : repository ≠ .subscribers) :
    stop.asked repository = start.asked repository
      + given.countP fun answer => answer.1.asks store ctx repository := by
  refine (h.count (fun _ => True) (fun s => s.asked repository)
    (fun l => l.asks store ctx repository)
    (fun l condition s t _ hcheck => ⟨trivial, ?_⟩)
    (fun trace passed s _ => ⟨trivial, (recordAudit_calls _ ctx trace passed s).2 repository⟩)
    trivial).2
  obtain ⟨s₁, own, hlooks, -, hcalls, hmakes⟩ := checkLeaf_calls hcheck
  rw [← hlooks.calls.1 repository hother, ← hmakes.asked repository, EvaluatorState.asked, hcalls]
  exact Repository.calledIn_append ..

theorem Dialogue.requests (h : Dialogue (c.over store).recorded header ctx vars start given stop) :
    stop.requests.length = start.requests.length
      + given.countP fun answer => answer.1.isWebhook := by
  refine (h.count (fun _ => True) (fun s => s.requests.length) Leaf.isWebhook
    (fun l condition s t _ hcheck => ⟨trivial, ?_⟩)
    (fun trace passed s _ => ⟨trivial, congrArg List.length (recordAudit_requests trace passed s)⟩)
    trivial).2
  obtain ⟨s₁, own, hlooks, -, hcalls, hmakes⟩ := checkLeaf_calls hcheck
  rw [← hlooks.calls.2, ← hmakes.requests, EvaluatorState.requests, hcalls, List.filterMap_append,
    List.length_append]
  rfl

/-! ### Fetches of the subscriber -/

/-- Only to look for the subscriber fetches it. -/
theorem checkLeaf_fetches {l : Leaf} {condition : Condition} {s t : EvaluatorState (σ × List Call)}
    (h : checkLeaf (c.over store).recorded header ctx vars l s = (.ok condition, t)) :
    ∃ s₁, LooksUpIf (c.over store).recorded ctx (l.looksUp ctx vars) s s₁ ∧
      t.cache = s₁.cache ∧ t.asked .subscribers = s₁.asked .subscribers := by
  obtain ⟨s₁, own, hlooks, hcache, hcalls, hmakes⟩ := checkLeaf_calls h
  refine ⟨s₁, hlooks, hcache, ?_⟩
  rw [EvaluatorState.asked, hcalls, Repository.calledIn_append, hmakes.asked]
  rfl

/-- With a snapshot nobody looks for the subscriber. -/
theorem Dialogue.asked_of_snapshot (hctx : ctx.subscriber.isSome) (hvars : vars.subscriber.isSome)
    (h : Dialogue (c.over store).recorded header ctx vars start given stop) :
    stop.asked .subscribers = start.asked .subscribers := by
  refine (h.invariant (fun s => s.asked .subscribers = start.asked .subscribers) (fun _ _ => True)
    (fun l condition s t hs hcheck => ⟨?_, trivial⟩)
    (fun trace passed s hs => ((recordAudit_calls _ ctx trace passed s).2 _).trans hs) rfl).1
  obtain ⟨s₁, hlooks, -, hasked⟩ := checkLeaf_fetches hcheck
  have hnever : l.looksUp ctx vars = false := by
    cases l <;> simp [Leaf.looksUp, hctx, hvars]
  rw [hnever] at hlooks
  obtain rfl : s₁ = s := hlooks
  exact hasked.trans hs

/-- A subscriber who is not stored is fetched for every leaf that is about presence or a webhook. -/
theorem Dialogue.asked_of_unknown (hc : c.ClockStill kind now) (hctx : ctx.subscriber = none)
    (hvars : vars.subscriber = none)
    (hrow : store.findSubscriber ctx.environmentId ctx.subscriberId = none)
    (hstart : start.Yielding kind ctx now none none)
    (h : Dialogue (c.over store).recorded header ctx vars start given stop) :
    stop.asked .subscribers = start.asked .subscribers
      + given.countP fun answer => answer.1.isPresence || answer.1.isWebhook := by
  have hfetch : (c.over store).Fetches kind ctx none := hrow ▸ c.fetches_over store
  refine (h.count (fun s => s.Yielding kind ctx now none none) (fun s => s.asked .subscribers)
    (fun l => l.isPresence || l.isWebhook) (fun l condition s t hs hcheck => ⟨?_, ?_⟩)
    (fun trace passed s hs => ⟨recordAudit_yielding (hc.over store) hfetch hs trace passed,
      (recordAudit_calls _ ctx trace passed s).2 _⟩) hstart).2
  · have ht := checkLeaf_yielding (hc.over store) hfetch hs header vars l
    rwa [hcheck] at ht
  · obtain ⟨s₁, hlooks, -, hasked⟩ := checkLeaf_fetches hcheck
    have halways : l.looksUp ctx vars = (l.isPresence || l.isWebhook) := by
      cases l <;> simp [Leaf.looksUp, Leaf.isPresence, Leaf.isWebhook, hctx, hvars]
    rw [halways] at hlooks
    exact hasked.trans (hlooks.asked_of_unknown (hc.over store) hfetch hs)

theorem EvaluatorState.asked_le_fetchBudget (s : EvaluatorState (σ × List Call)) :
    s.asked .subscribers ≤ s.fetchBudget ctx now ∧
      s.fetchBudget ctx now ≤ s.asked .subscribers + 1 := by
  rw [fetchBudget]
  split <;> omega

theorem EvaluatorState.fetchBudget_congr {s t : EvaluatorState (σ × List Call)}
    (hcache : t.cache = s.cache) (hasked : t.asked .subscribers = s.asked .subscribers) :
    t.fetchBudget ctx now = s.fetchBudget ctx now := by
  rw [fetchBudget, fetchBudget, hcache, hasked]

/-- A subscriber who is stored and may be cached is fetched once at most. -/
theorem Dialogue.fetchBudget_le (hc : c.ClockStill kind now) {subscriber : Subscriber}
    (hrow : store.findSubscriber ctx.environmentId ctx.subscriberId = some subscriber)
    {found : Option Subscriber} (hstart : start.Yielding kind ctx now (some subscriber) found)
    (httl : start.cache.ttlMs ≠ 0)
    (h : Dialogue (c.over store).recorded header ctx vars start given stop) :
    stop.fetchBudget ctx now ≤ start.fetchBudget ctx now := by
  have hfetch : (c.over store).Fetches kind ctx (some subscriber) := hrow ▸ c.fetches_over store
  -- the budget alone is no invariant: a later fetch is spared only if the row is still the same
  refine (h.invariant (fun s => s.Yielding kind ctx now (some subscriber) found ∧
      s.cache.ttlMs ≠ 0 ∧ s.fetchBudget ctx now ≤ start.fetchBudget ctx now) (fun _ _ => True)
    ?_ ?_ ⟨hstart, httl, Nat.le_refl _⟩).1.2.2
  · rintro l condition s t ⟨hs, httl, hle⟩ hcheck
    obtain ⟨s₁, hlooks, hcache, hasked⟩ := checkLeaf_fetches hcheck
    obtain ⟨hbudget, httl₁⟩ := hlooks.fetchBudget_le (hc.over store) hfetch hs.world httl
    have ht := checkLeaf_yielding (hc.over store) hfetch hs header vars l
    rw [hcheck] at ht
    rw [EvaluatorState.fetchBudget_congr hcache hasked, hcache]
    exact ⟨⟨ht, httl₁, Nat.le_trans hbudget hle⟩, trivial⟩
  · rintro trace passed s ⟨hs, httl, hle⟩
    obtain ⟨hcache, hasked⟩ := recordAudit_calls (c.over store) ctx trace passed s
    rw [EvaluatorState.fetchBudget_congr hcache (hasked _), hcache]
    exact ⟨recordAudit_yielding (hc.over store) hfetch hs trace passed, httl, hle⟩

end

/-! ### All calls -/

theorem Kind.name_beq (kind other : Kind) : (kind.name == other.name) = (kind == other) := by
  cases kind <;> cases other <;> decide

theorem countP_presence_or_webhook : ∀ answers : List (Leaf × Condition),
    answers.countP (fun answer => answer.1.isPresence || answer.1.isWebhook)
      = answers.countP (fun answer => answer.1.kind == .isOnline)
        + answers.countP (fun answer => answer.1.kind == .isOnlineInLast)
        + answers.countP (fun answer => answer.1.kind == .webhook)
  | [] => rfl
  | (l, condition) :: rest => by
    have hone : (if l.isPresence || l.isWebhook then 1 else 0)
        = (if l.kind == .isOnline then 1 else 0) + (if l.kind == .isOnlineInLast then 1 else 0)
          + if l.kind == .webhook then 1 else 0 := by
      rcases l with (_ | _ | _) | _ | _ | _ | _ <;> rfl
    simp only [List.countP_cons, countP_presence_or_webhook rest, hone]
    omega

section

variable {c : Collaborators σ} {header : String} {ctx : Context} {vars : Variables}
  {start stop : EvaluatorState σ} {outcome : Outcome}

/-- The conditions of a kind are those of the leaves of this kind. -/
theorem Dialogue.outcome_count (hanswers : outcome.answers.map Prod.snd = outcome.conditions)
    (h : Dialogue c header ctx vars start outcome.answers stop) (kind : Kind) :
    outcome.count kind = outcome.answers.countP fun answer => answer.1.kind == kind := by
  rw [Outcome.count, ← hanswers, List.countP_map]
  refine List.countP_congr fun answer hmem => ?_
  rw [Function.comp_apply, h.filter_eq answer hmem, Kind.name_beq]

end

section

variable {c : Collaborators σ} {store : Store} {header : String} {ctx : Context}
  {filters : List Node} {kind : σ → Prop} {now : Instant}
  {start stop : EvaluatorState (σ × List Call)} {outcome : Outcome}

/-- A successful evaluation makes the calls of its answers, and none else besides looking for the
subscriber. -/
theorem decideStep_called (hne : filters ≠ [])
    (h : decideStep (c.over store).recorded header filters ctx start = (.ok outcome, stop)) :
    outcome.Called store ctx start stop := by
  obtain ⟨hanswers, begun, hvars, hdialogue⟩ := decideStep_dialogue hne h
  obtain ⟨hasked, hrequests⟩ := (variablesOf_looksUpIf hvars).calls
  have hcount := hdialogue.outcome_count hanswers
  have hsteps : ∀ l : Leaf, l.isPreviousStep = (l.kind == .previousStep) := by
    rintro ((_ | _ | _) | _ | _ | _ | _) <;> rfl
  have hwebhooks : ∀ l : Leaf, l.isWebhook = (l.kind == .webhook) := by
    rintro ((_ | _ | _) | _ | _ | _ | _) <;> rfl
  refine ⟨hanswers, ?_, ?_, ?_, ?_, ?_⟩
  · rw [hdialogue.asked (by decide), hasked _ (by decide), hcount]
    simp only [Leaf.asks, hsteps]
  · rw [hdialogue.asked (by decide), hasked _ (by decide)]
    rfl
  · rw [hdialogue.asked (by decide), hasked _ (by decide)]
    rfl
  · rw [hdialogue.asked (by decide), hasked _ (by decide), hcount]
    simp only [Leaf.asks, hwebhooks]
  · rw [hdialogue.requests, hrequests, hcount]
    simp only [hwebhooks]

/-- While the clock stands still and the store does not change, a successful evaluation calls the
repositories for its answers only. The subscriber of the context is not fetched if there is a
snapshot, and at most once if it is stored and may be cached; if it is not stored and not cached,
it is fetched for the variables, unless the context names nobody, and for every condition that is
about presence or a webhook. -/
theorem decideStep_calls (hc : c.ClockStill kind now) (hkind : kind start.world.1)
    (hne : filters ≠ [])
    (h : decideStep (c.over store).recorded header filters ctx start = (.ok outcome, stop)) :
    outcome.Called store ctx start stop ∧
    (ctx.subscriber.isSome → stop.asked .subscribers = start.asked .subscribers) ∧
    (start.cache.ttlMs ≠ 0 →
      (store.findSubscriber ctx.environmentId ctx.subscriberId).isSome →
      stop.asked .subscribers ≤ start.asked .subscribers + 1) ∧
    (ctx.subscriber = none → store.findSubscriber ctx.environmentId ctx.subscriberId = none →
      start.cache.probe (ctx.environmentId, ctx.subscriberId) now = none →
      stop.asked .subscribers = start.asked .subscribers
        + (if ctx.subscriberId = "" then 0 else 1)
        + (outcome.count .isOnline + outcome.count .isOnlineInLast) + outcome.count .webhook) := by
  obtain ⟨hanswers, begun, hvars, hdialogue⟩ := decideStep_dialogue hne h
  have hlooks := variablesOf_looksUpIf hvars
  have hfetch : (c.over store).Fetches kind ctx
      (store.findSubscriber ctx.environmentId ctx.subscriberId) := c.fetches_over store
  have hstart : start.Yielding kind ctx now
      (store.findSubscriber ctx.environmentId ctx.subscriberId)
      ((start.cache.probe (ctx.environmentId, ctx.subscriberId) now).or
        (store.findSubscriber ctx.environmentId ctx.subscriberId)) :=
    EvaluatorState.yielding_iff.mpr ⟨hkind, rfl⟩
  obtain ⟨hbegun, -, hknown⟩ := variablesOf_yielding (hc.over store) hfetch hstart hvars
  refine ⟨decideStep_called hne h, fun hsnapshot => ?_, fun httl hstored => ?_,
    fun hsnapshot hrow hprobe => ?_⟩
  · have hvariables : outcome.vars.subscriber.isSome := by
      rw [hknown, Option.isSome_map]
      simp [Option.isSome_or, hsnapshot]
    rw [hdialogue.asked_of_snapshot hsnapshot hvariables]
    rw [Option.isNone_eq_false_iff.mpr hsnapshot] at hlooks
    exact congrArg (EvaluatorState.asked · .subscribers) hlooks
  · obtain ⟨subscriber, hrow⟩ := Option.isSome_iff_exists.mp hstored
    rw [hrow] at hfetch hstart hbegun
    obtain ⟨hfirst, httl₁⟩ := hlooks.fetchBudget_le (hc.over store) hfetch hkind httl
    have hrest := hdialogue.fetchBudget_le hc hrow hbegun httl₁
    calc stop.asked .subscribers ≤ stop.fetchBudget ctx now := stop.asked_le_fetchBudget.1
      _ ≤ begun.fetchBudget ctx now := hrest
      _ ≤ start.fetchBudget ctx now := hfirst
      _ ≤ start.asked .subscribers + 1 := start.asked_le_fetchBudget.2
  · rw [hrow, hprobe] at hstart hbegun
    rw [hrow] at hfetch
    have hvariables : outcome.vars.subscriber = none := by
      simp [hknown, hsnapshot, hrow, hprobe]
    rw [hdialogue.asked_of_unknown hc hsnapshot hvariables hrow hbegun,
      hlooks.asked_of_unknown (hc.over store) hfetch hstart, hdialogue.outcome_count hanswers,
      hdialogue.outcome_count hanswers, hdialogue.outcome_count hanswers,
      countP_presence_or_webhook, hsnapshot]
    by_cases hid : ctx.subscriberId = "" <;> simp [hid, Nat.add_assoc]

/-- The sample without its subscriber, and with an email that an earlier step sent. -/
def World.emailed : World :=
  { World.sample with
    store := Store.ofRows
      [.environment ⟨"env-1", "org-1", ["secret"]⟩,
        .job ⟨"job-0", "tx-1", "sub-1", "env-1", "welcome", .email⟩,
        .message ⟨"message-1", "job-0", "env-1", .email, none, none⟩,
        .openedEvent ⟨"env-1", "job-0", "message-1"⟩] }

/-- Alternatives of three kinds, none of which passes there. -/
def Node.asksAll : Node :=
  .group .or
    [.leaf (.online true), .leaf (.previousStep "welcome" .unread),
      .asksWebhook "https://a.test" "no"]

/-- The subscriber is fetched for the variables, for its presence and for the webhook. Where it is
stored it is fetched once at most, and not at all if the context has a snapshot. -/
theorem decideStep_calls_emailed :
    (∃ outcome stop,
      decideStep (World.collaborators.over World.emailed.store).recorded "signature"
        [Node.asksAll] Context.sample
        (EvaluatorState.recording ⟨World.emailed, SubscriberCache.empty 1000 10⟩)
          = (.ok outcome, stop) ∧
      outcome.Called World.emailed.store Context.sample
        (EvaluatorState.recording ⟨World.emailed, SubscriberCache.empty 1000 10⟩) stop ∧
      stop.asked .jobs = 1 ∧ stop.requests.length = 1 ∧ stop.asked .subscribers = 3) ∧
    (∃ outcome stop,
      decideStep (World.collaborators.over World.sample.store).recorded "signature"
        [Node.asksAll] Context.sample EvaluatorState.sample.recording = (.ok outcome, stop) ∧
      stop.asked .subscribers ≤ 1) ∧
    ∃ outcome stop,
      decideStep (World.collaborators.over World.emailed.store).recorded "signature"
        [Node.asksAll] { Context.sample with subscriber := some { id := "sub-1" } }
        EvaluatorState.sample.recording = (.ok outcome, stop) ∧
      stop.asked .subscribers = 0 := by
  have hstill := World.clockStill_collaborators World.sample.now
  refine ⟨?_, ?_, ?_⟩
  · obtain ⟨outcome, stop, hdecide, hcounts⟩ : ∃ outcome stop,
        decideStep (World.collaborators.over World.emailed.store).recorded "signature"
          [Node.asksAll] Context.sample
          (EvaluatorState.recording ⟨World.emailed, SubscriberCache.empty 1000 10⟩)
            = (.ok outcome, stop) ∧
        [outcome.count .previousStep, outcome.count .webhook, outcome.count .isOnline,
          outcome.count .isOnlineInLast] = [1, 1, 1, 0] := ⟨_, _, rfl, by decide⟩
    simp only [List.cons.injEq, and_true] at hcounts
    obtain ⟨hjobs, hwebhooks, honline, hlast⟩ := hcounts
    obtain ⟨hcalled, -, -, hunknown⟩ :=
      decideStep_calls hstill rfl (List.cons_ne_nil _ _) hdecide
    refine ⟨outcome, stop, hdecide, hcalled, ?_, ?_, ?_⟩
    · rw [hcalled.jobs, hjobs]
      rfl
    · rw [hcalled.requests, hwebhooks]
      rfl
    · rw [hunknown rfl rfl rfl, honline, hlast, hwebhooks]
      rfl
  · obtain ⟨outcome, stop, hdecide⟩ : ∃ outcome stop,
        decideStep (World.collaborators.over World.sample.store).recorded "signature"
          [Node.asksAll] Context.sample EvaluatorState.sample.recording = (.ok outcome, stop) :=
      ⟨_, _, rfl⟩
    obtain ⟨-, -, hstored, -⟩ := decideStep_calls hstill rfl (List.cons_ne_nil _ _) hdecide
    exact ⟨outcome, stop, hdecide, hstored (by decide) rfl⟩
  · obtain ⟨outcome, stop, hdecide⟩ : ∃ outcome stop,
        decideStep (World.collaborators.over World.emailed.store).recorded "signature"
          [Node.asksAll] { Context.sample with subscriber := some { id := "sub-1" } }
          EvaluatorState.sample.recording = (.ok outcome, stop) := ⟨_, _, rfl⟩
    obtain ⟨-, hsnapshot, -, -⟩ := decideStep_calls hstill rfl (List.cons_ne_nil _ _) hdecide
    exact ⟨outcome, stop, hdecide, hsnapshot rfl⟩

end

end DeliveryGate
