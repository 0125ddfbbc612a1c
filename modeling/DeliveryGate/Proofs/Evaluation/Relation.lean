import DeliveryGate.Proofs.Walk.Plan

/-!
# Evaluations side by side

Two runs are related if from related states they give the same result and lead to related states.
An evaluation only passes on what its collaborators say, so if these are related in the calls that
are made for a context (`Alike`), then so are the evaluations (`decideStep_related`). With both
states equal this says what an evaluation preserves (`related_self_iff`).
-/

namespace DeliveryGate

namespace Run

variable {σ τ α β : Type} {R : σ → τ → Prop}

/-- From related states the same result and related states. -/
def Related (R : σ → τ → Prop) (x : Run σ α) (y : Run τ α) : Prop :=
  ∀ s t, R s t → (x s).1 = (y t).1 ∧ R (x s).2 (y t).2

theorem related_pure (a : α) : Related R (pure a) (pure a) := fun _ _ h => ⟨rfl, h⟩

theorem Related.bind {x : Run σ α} {y : Run τ α} {f : α → Run σ β} {g : α → Run τ β}
    (hx : Related R x y) (hf : ∀ a, Related R (f a) (g a)) : Related R (x >>= f) (y >>= g) := by
  intro s t h
  obtain ⟨hresult, hstates⟩ := hx s t h
  rw [bind_apply, bind_apply]
  rcases hs : x s with ⟨_ | a, s'⟩ <;> rcases ht : y t with ⟨_ | b, t'⟩ <;>
    simp only [hs, ht] at hresult hstates ⊢
  · cases hresult
    exact ⟨rfl, hstates⟩
  · cases hresult
  · cases hresult
  · cases hresult
    exact hf a s' t' hstates

theorem related_ofOption (e : Failure) (found : Option α) :
    Related R (ofOption e found) (ofOption e found) := by
  intro s t h
  cases found <;> exact ⟨rfl, h⟩

/-- What is the same in related states may be read. -/
theorem related_get {f : σ → α} {g : τ → α} (hf : ∀ s t, R s t → f s = g t) (k : α → β) :
    Related R (do let s ← get; return k (f s)) (do let t ← get; return k (g t)) := by
  intro s t h
  rw [bind_of_ok (show get s = (.ok s, s) from rfl), bind_of_ok (show get t = (.ok t, t) from rfl),
    hf s t h]
  exact ⟨rfl, h⟩

/-- Related to itself in equal states that satisfy an invariant is what preserves the invariant. -/
theorem related_self_iff {I : σ → Prop} {x : Run σ α} :
    Related (fun s t => s = t ∧ I s) x x ↔ ∀ s, I s → I (x s).2 := by
  constructor
  · intro h s hs
    exact (h s s ⟨rfl, hs⟩).2.2
  · rintro h s _ ⟨rfl, hs⟩
    exact ⟨rfl, rfl, h s hs⟩

end Run

/-! ### Walks -/

section

variable {σ τ : Type} {R : σ → τ → Prop} {check : Leaf → Run σ Condition}
  {check' : Leaf → Run τ Condition}

theorem Plan.run_related : ∀ {plan : Plan},
    (∀ l, plan.MayAsk l → Run.Related R (check l) (check' l)) →
    Run.Related R (plan.run check) (plan.run check')
  | .done _, _ => Run.related_pure _
  | .ask l _, h => (h l .here).bind fun condition =>
    (run_related fun m hm => h m (.later condition.passed hm)).bind fun _ => Run.related_pure _

theorem walk_related {node : Node}
    (h : ∀ l ∈ node.leaves, Run.Related R (check l) (check' l)) :
    Run.Related R (walk check node) (walk check' node) := by
  rw [walk_eq_run, walk_eq_run]
  exact Plan.run_related fun l hl => h l (Node.mem_leaves_of_mayAsk node hl)

theorem walkPart_related {operator : GroupOperator} {webhooks : Bool} {children : List Node}
    (h : ∀ l, Run.Related R (check l) (check' l)) :
    Run.Related R (walkPart check operator webhooks children)
      (walkPart check' operator webhooks children) := by
  rw [walkPart_eq_run operator webhooks fun child _ => walk_eq_run child,
    walkPart_eq_run operator webhooks fun child _ => walk_eq_run child]
  exact (Plan.run_related fun l _ => h l).bind fun _ => Run.related_pure _

end

/-! ### Calls within an evaluation -/

namespace EvaluatorState

variable {σ α β : Type}

theorem call_bind (x : Run σ α) (f : α → Run σ β) :
    call (x >>= f) = call x >>= fun a => call (f a) := by
  funext s
  simp only [call, Run.onPart, Run.bind_apply]
  rcases x s.world with ⟨_ | a, w⟩ <;> rfl

theorem call_ofOption (e : Failure) (found : Option α) :
    call (Run.ofOption e found : Run σ α) = Run.ofOption e found := by
  cases found <;> rfl

end EvaluatorState

variable {σ τ : Type}

/-- The lookups that are made for a context are related, and the clocks agree. -/
structure LookupsAlike (R : EvaluatorState σ → EvaluatorState τ → Prop) (c : Collaborators σ)
    (c' : Collaborators τ) (ctx : Context) : Prop where
  subscriber : Run.Related R (lookupSubscriber c ctx.environmentId ctx.subscriberId)
    (lookupSubscriber c' ctx.environmentId ctx.subscriberId)
  job : ∀ step, Run.Related R
    (EvaluatorState.call (c.findJob ⟨ctx.transactionId, ctx.subscriberId, ctx.environmentId, step⟩))
    (EvaluatorState.call
      (c'.findJob ⟨ctx.transactionId, ctx.subscriberId, ctx.environmentId, step⟩))
  message : ∀ jobId, Run.Related R (EvaluatorState.call (c.findMessage ctx.environmentId jobId))
    (EvaluatorState.call (c'.findMessage ctx.environmentId jobId))
  opened : ∀ messageId, Run.Related R
    (EvaluatorState.call
      (c.countOpened ⟨ctx.environmentId, ctx.job.bind CurrentJob.parentId, messageId⟩))
    (EvaluatorState.call
      (c'.countOpened ⟨ctx.environmentId, ctx.job.bind CurrentJob.parentId, messageId⟩))
  now : ∀ s t, R s t → c.now s.world = c'.now t.world

/-- What a webhook leaf calls besides is related, too. -/
structure WebhooksAlike (R : EvaluatorState σ → EvaluatorState τ → Prop) (c : Collaborators σ)
    (c' : Collaborators τ) (ctx : Context) : Prop extends LookupsAlike R c c' ctx where
  environment : Run.Related R
    (EvaluatorState.call (c.findEnvironment ctx.environmentId ctx.organizationId))
    (EvaluatorState.call (c'.findEnvironment ctx.environmentId ctx.organizationId))
  post : ∀ request, Run.Related R (EvaluatorState.call (c.post request))
    (EvaluatorState.call (c'.post request))

/-- All calls that are made for a context are related; whether an audit entry was kept may differ.
-/
structure Alike (R : EvaluatorState σ → EvaluatorState τ → Prop) (c : Collaborators σ)
    (c' : Collaborators τ) (ctx : Context) : Prop extends WebhooksAlike R c c' ctx where
  keep : ∀ entry s t, R s t →
    R (EvaluatorState.call (c.keep entry) s).2 (EvaluatorState.call (c'.keep entry) t).2

section

variable {R : EvaluatorState σ → EvaluatorState τ → Prop} {c : Collaborators σ}
  {c' : Collaborators τ} {ctx : Context} {header : String} {vars : Variables}

theorem presenceSubscriber_related (h : LookupsAlike R c c' ctx) :
    Run.Related R (presenceSubscriber c ctx) (presenceSubscriber c' ctx) := by
  simp only [presenceSubscriber]
  cases ctx.subscriber with
  | none => exact h.subscriber
  | some subscriber => exact Run.related_pure _

theorem checkPreviousStep_related (h : LookupsAlike R c c' ctx) (step : String)
    (state : StepState) :
    Run.Related R (EvaluatorState.call (checkPreviousStep c ctx step state))
      (EvaluatorState.call (checkPreviousStep c' ctx step state)) := by
  simp only [checkPreviousStep, EvaluatorState.call_bind]
  refine (h.job step).bind fun job => ?_
  cases job with
  | none => exact Run.related_pure _
  | some job =>
    simp only [EvaluatorState.call_bind]
    refine (h.message job.id).bind fun message => ?_
    cases message with
    | none => exact Run.related_pure _
    | some message =>
      dsimp only
      split
      · simp only [EvaluatorState.call_bind]
        exact (h.opened message.id).bind fun _ => Run.related_pure _
      · exact Run.related_pure _

theorem checkLocalLeaf_related (h : LookupsAlike R c c' ctx) {l : Leaf}
    (hlocal : l.isWebhook = false) :
    Run.Related R (checkLeaf c header ctx vars l) (checkLeaf c' header ctx vars l) := by
  cases l with
  | field source test => exact Run.related_pure _
  | webhook url test => cases hlocal
  | online expected => exact (presenceSubscriber_related h).bind fun _ => Run.related_pure _
  | onlineInLast window unit =>
    exact (presenceSubscriber_related h).bind fun _ => Run.related_get h.now _
  | previousStep step state => exact checkPreviousStep_related h step state

theorem requestSubscriber_related (h : LookupsAlike R c c' ctx) :
    Run.Related R (requestSubscriber c ctx vars) (requestSubscriber c' ctx vars) := by
  simp only [requestSubscriber]
  cases vars.subscriber with
  | none => exact h.subscriber.bind fun _ => Run.related_pure _
  | some subscriber => exact Run.related_pure _

theorem requestSignature_related (h : WebhooksAlike R c c' ctx) :
    Run.Related R (EvaluatorState.call (requestSignature c ctx))
      (EvaluatorState.call (requestSignature c' ctx)) := by
  simp only [requestSignature, EvaluatorState.call_bind, EvaluatorState.call_ofOption]
  exact h.environment.bind fun _ => (Run.related_ofOption _ _).bind fun _ =>
    (Run.related_ofOption _ _).bind fun _ => Run.related_pure _

theorem checkLeaf_related (h : WebhooksAlike R c c' ctx) (l : Leaf) :
    Run.Related R (checkLeaf c header ctx vars l) (checkLeaf c' header ctx vars l) := by
  cases hkind : l.isWebhook with
  | false => exact checkLocalLeaf_related h.toLookupsAlike hkind
  | true =>
    obtain ⟨url, test, rfl⟩ := Leaf.eq_webhook hkind
    exact (requestSubscriber_related h.toLookupsAlike).bind fun _ =>
      (requestSignature_related h).bind fun _ => (h.post _).bind fun _ => Run.related_pure _

theorem variablesOf_related (h : LookupsAlike R c c' ctx) :
    Run.Related R (variablesOf c ctx) (variablesOf c' ctx) := by
  simp only [variablesOf]
  split
  · exact h.subscriber.bind fun _ => Run.related_pure _
  · exact Run.related_pure _

theorem recordAudit_related (h : Alike R c c' ctx) (trace : Trace) (passed : Bool) :
    Run.Related R (recordAudit c ctx trace passed) (recordAudit c' ctx trace passed) := by
  intro s t hst
  cases hjob : ctx.job with
  | none =>
    rw [recordAudit_none c hjob, recordAudit_none c' hjob]
    exact ⟨rfl, hst⟩
  | some job =>
    rw [recordAudit_some c hjob, recordAudit_some c' hjob, h.now s t hst]
    exact ⟨rfl, h.keep _ s t hst⟩

theorem walkFilters_related (h : Alike R c c' ctx) : ∀ filters : List Node,
    Run.Related R (walkFilters c header ctx vars filters) (walkFilters c' header ctx vars filters)
  | [] => Run.related_pure _
  | filter :: rest => by
    simp only [walkFilters]
    refine (walk_related fun l _ => checkLeaf_related h.toWebhooksAlike l).bind fun r => ?_
    refine (recordAudit_related h _ _).bind fun _ => ?_
    split
    · exact Run.related_pure _
    · exact (walkFilters_related h rest).bind fun _ => Run.related_pure _

/-- Evaluations with related collaborators come to the same outcome or the same failure. -/
theorem decideStep_related (h : Alike R c c' ctx) (filters : List Node) :
    Run.Related R (decideStep c header filters ctx) (decideStep c' header filters ctx) := by
  simp only [decideStep]
  split
  · exact Run.related_pure _
  · exact (variablesOf_related h.toLookupsAlike).bind fun _ =>
      (walkFilters_related h filters).bind fun _ => Run.related_pure _

end

end DeliveryGate
