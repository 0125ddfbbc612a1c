import DeliveryGate.Proofs.Evaluation.Backed
import DeliveryGate.Proofs.Evaluation.Constant

/-!
# Environments do not see each other

Every row belongs to an environment, and an evaluation is made for one. `decideStep_isolated` says
that the rows of the others do not matter: over two stores that agree on the rows of its
environment, an evaluation does the same from its first call to its last.
-/

namespace DeliveryGate

namespace Store

/-- Two stores hold the same rows of an environment; its jobs, messages and opened events are in the
same order. -/
structure AgreesOn (environmentId : String) (store other : Store) : Prop where
  subscribers : ∀ subscriberId, store.subscribers.lookup (environmentId, subscriberId)
    = other.subscribers.lookup (environmentId, subscriberId)
  jobs : store.jobs.filter (fun job => job.environmentId == environmentId)
    = other.jobs.filter (fun job => job.environmentId == environmentId)
  messages : store.messages.filter (fun message => message.environmentId == environmentId)
    = other.messages.filter (fun message => message.environmentId == environmentId)
  openedEvents : store.openedEvents.filter (fun event => event.environmentId == environmentId)
    = other.openedEvents.filter (fun event => event.environmentId == environmentId)
  environment : store.environments.lookup environmentId = other.environments.lookup environmentId

/-! ### Lookups stay in their environment -/

section

variable (store : Store)

theorem findJob_eq_filter (query : JobQuery) :
    store.findJob query = (store.jobs.filter fun job =>
      job.environmentId == query.environmentId).find? query.matchesJob := by
  rw [findJob, List.find?_filter]
  congr 1
  funext job
  cases h : query.matchesJob job <;> simp_all [JobQuery.matchesJob]

theorem findMessage_eq_filter (environmentId jobId : String) :
    store.findMessage environmentId jobId = (store.messages.filter fun message =>
      message.environmentId == environmentId).find? fun message => message.jobId == jobId := by
  rw [findMessage, List.find?_filter]
  congr 1
  funext message
  rw [Bool.decide_and, Bool.decide_eq_true, Bool.decide_eq_true]

theorem countOpened_eq_filter (query : OpenedQuery) :
    store.countOpened query = (store.openedEvents.filter fun event =>
      event.environmentId == query.environmentId).countP query.matchesEvent := by
  rw [countOpened, List.countP_filter]
  congr 1
  funext event
  cases h : query.matchesEvent event <;> simp_all [OpenedQuery.matchesEvent]

end

namespace AgreesOn

variable {environmentId : String} {store other : Store} (h : store.AgreesOn environmentId other)
include h

theorem findSubscriber (subscriberId : String) :
    store.findSubscriber environmentId subscriberId
      = other.findSubscriber environmentId subscriberId := h.subscribers subscriberId

theorem findJob {query : JobQuery} (hquery : query.environmentId = environmentId) :
    store.findJob query = other.findJob query := by
  rw [findJob_eq_filter, findJob_eq_filter, hquery, h.jobs]

theorem findMessage (jobId : String) :
    store.findMessage environmentId jobId = other.findMessage environmentId jobId := by
  rw [findMessage_eq_filter, findMessage_eq_filter, h.messages]

theorem countOpened {query : OpenedQuery} (hquery : query.environmentId = environmentId) :
    store.countOpened query = other.countOpened query := by
  rw [countOpened_eq_filter, countOpened_eq_filter, hquery, h.openedEvents]

theorem findEnvironment (organizationId : String) :
    store.findEnvironment environmentId organizationId
      = other.findEnvironment environmentId organizationId := by
  rw [Store.findEnvironment, Store.findEnvironment, h.environment]

end AgreesOn

end Store

/-! ### Evaluations stay in their environment -/

section

variable {σ : Type} (c : Collaborators σ) {ctx : Context} {store other : Store}

theorem Run.related_eq {τ α : Type} {x y : Run τ α} (h : x = y) : Run.Related Eq x y := by
  rintro s _ rfl
  rw [h]
  exact ⟨rfl, rfl⟩

/-- Every call for a context is the same over stores that agree on its environment. -/
theorem over_alike (h : store.AgreesOn ctx.environmentId other) :
    Alike Eq (c.over store).recorded (c.over other).recorded ctx where
  subscriber := Run.related_eq <| by
    simp only [lookupSubscriber, Collaborators.recorded, Collaborators.over, h.findSubscriber]
  job step := Run.related_eq <| by
    simp only [Collaborators.recorded, Collaborators.over, h.findJob]
  message jobId := Run.related_eq <| by
    simp only [Collaborators.recorded, Collaborators.over, h.findMessage]
  opened messageId := Run.related_eq <| by
    simp only [Collaborators.recorded, Collaborators.over, h.countOpened]
  environment := Run.related_eq <| by
    simp only [Collaborators.recorded, Collaborators.over, h.findEnvironment]
  post request := Run.related_eq rfl
  keep entry s t hst := by
    rw [hst]
    rfl
  now s t hst := by
    rw [hst]
    rfl

/-- Over two stores that agree on the rows of its environment, an evaluation that starts from the
same state comes to the same result through the same calls: the same requests with the same bodies
and headers, the same audit entries and the same lookups, all in the same order. It also leaves the
same state behind, the cache included. -/
theorem decideStep_isolated (h : store.AgreesOn ctx.environmentId other) (header : String)
    (filters : List Node) (start : EvaluatorState (σ × List Call)) :
    decideStep (c.over store).recorded header filters ctx start
      = decideStep (c.over other).recorded header filters ctx start := by
  have hrelated : Run.Related Eq (decideStep (c.over store).recorded header filters ctx)
      (decideStep (c.over other).recorded header filters ctx) :=
    decideStep_related (over_alike c h) filters
  obtain ⟨hresult, hstop⟩ := hrelated start start rfl
  exact Prod.ext hresult hstop

end

namespace Store

/-- The rows of one environment: an email of an earlier step that was opened. -/
def ownRows : List Row :=
  [.environment ⟨"env-1", "org-1", ["secret"]⟩,
    .subscriber "env-1" { id := "sub-1", isOnline := some true },
    .job ⟨"job-0", "tx-1", "sub-1", "env-1", "step-0", .email⟩,
    .message ⟨"msg-0", "job-0", "env-1", .email, none, none⟩,
    .openedEvent ⟨"env-1", "job-0", "msg-0"⟩]

/-- Rows of another environment with the same identifiers. -/
def foreignRows : List Row :=
  [.environment ⟨"env-2", "org-1", []⟩,
    .subscriber "env-2" { id := "sub-1", isOnline := some false },
    .job ⟨"job-0", "tx-1", "sub-1", "env-2", "step-0", .sms⟩,
    .message ⟨"msg-0", "job-0", "env-2", .sms, some false, some false⟩,
    .openedEvent ⟨"env-2", "job-0", "msg-0"⟩]

end Store

/-- The other environment has its rows in front, under the same identifiers, and is not seen. -/
theorem decideStep_isolated_shared :
    (Store.ofRows Store.ownRows).AgreesOn Context.sample.environmentId
        (Store.ofRows (Store.foreignRows ++ Store.ownRows)) ∧
      decideStep (World.collaborators.over (Store.ofRows Store.ownRows)).recorded "signature"
          [.group .and [.leaf (.previousStep "step-0" .opened),
            .asksWebhook "https://a.test" "yes"]] Context.sample EvaluatorState.sample.recording
        = decideStep
          (World.collaborators.over (Store.ofRows (Store.foreignRows ++ Store.ownRows))).recorded
          "signature" [.group .and [.leaf (.previousStep "step-0" .opened),
            .asksWebhook "https://a.test" "yes"]] Context.sample
          EvaluatorState.sample.recording := by
  have hagrees : (Store.ofRows Store.ownRows).AgreesOn Context.sample.environmentId
      (Store.ofRows (Store.foreignRows ++ Store.ownRows)) :=
    { subscribers := fun subscriberId => by
        change List.lookup ("env-1", subscriberId) [(("env-1", "sub-1"), _)]
          = List.lookup ("env-1", subscriberId) [(("env-2", "sub-1"), _), (("env-1", "sub-1"), _)]
        have hother : (("env-1", subscriberId) == ("env-2", "sub-1")) = false :=
          beq_false_of_ne (by simp)
        simp only [List.lookup_cons, hother]
      jobs := rfl
      messages := rfl
      openedEvents := rfl
      environment := rfl }
  exact ⟨hagrees, decideStep_isolated World.collaborators hagrees "signature" _ _⟩

end DeliveryGate
