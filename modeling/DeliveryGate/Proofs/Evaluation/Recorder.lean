import DeliveryGate.Proofs.Evaluation.Relation

/-!
# Recorded calls

Any collaborators can be given a recorder that writes down their calls, failed ones too. It changes
nothing else (`decideStep_recorded`), so what is said about the recorded calls holds of the calls
that an evaluation makes of these collaborators. Leaves leave the audit entries alone, a trace that
is recorded for a job leaves one entry, which tells of it, and only webhook leaves send requests.
-/

namespace DeliveryGate

/-- A call of a collaborator. -/
inductive Call where
  | findSubscriber (environmentId subscriberId : String)
  | findJob (query : Store.JobQuery)
  | findMessage (environmentId jobId : String)
  | countOpened (query : Store.OpenedQuery)
  | findEnvironment (environmentId organizationId : String)
  | post (request : Request)
  | keep (entry : AuditEntry)

namespace Call

/-- The request that a call sent to a webhook. -/
def request? : Call → Option Request
  | post request => some request
  | _ => none

/-- The entry that a call handed to the audit trail. -/
def entry? : Call → Option AuditEntry
  | keep entry => some entry
  | _ => none

end Call

variable {σ τ α : Type}

/-- Write a call down after it was made. -/
def Run.recorded (call : Call) (x : Run σ α) : Run (σ × List Call) α := fun s =>
  ((x s.1).1, (x s.1).2, s.2 ++ [call])

/-- The same collaborators with a recorder. -/
def Collaborators.recorded (c : Collaborators σ) : Collaborators (σ × List Call) where
  findSubscriber environmentId subscriberId :=
    (c.findSubscriber environmentId subscriberId).recorded
      (.findSubscriber environmentId subscriberId)
  findJob query := (c.findJob query).recorded (.findJob query)
  findMessage environmentId jobId :=
    (c.findMessage environmentId jobId).recorded (.findMessage environmentId jobId)
  countOpened query := (c.countOpened query).recorded (.countOpened query)
  findEnvironment environmentId organizationId :=
    (c.findEnvironment environmentId organizationId).recorded
      (.findEnvironment environmentId organizationId)
  post request := (c.post request).recorded (.post request)
  keep entry := (c.keep entry).recorded (.keep entry)
  now s := c.now s.1

namespace EvaluatorState

/-- The state before anything is recorded. -/
def recording (s : EvaluatorState σ) : EvaluatorState (σ × List Call) := ⟨(s.world, []), s.cache⟩

/-- The state without what was recorded. -/
def forget (s : EvaluatorState (σ × List Call)) : EvaluatorState σ := ⟨s.world.1, s.cache⟩

/-- The recorded requests to webhooks, in order. -/
def requests (s : EvaluatorState (σ × List Call)) : List Request :=
  s.world.2.filterMap Call.request?

/-- The recorded audit entries, in order. -/
def entries (s : EvaluatorState (σ × List Call)) : List AuditEntry :=
  s.world.2.filterMap Call.entry?

/-- The worlds are related, and the caches are equal. -/
def SameCache (R : σ → τ → Prop) (s : EvaluatorState σ) (t : EvaluatorState τ) : Prop :=
  R s.world t.world ∧ s.cache = t.cache

end EvaluatorState

/-! ### Related worlds -/

section

variable {R : σ → τ → Prop} {c : Collaborators σ} {c' : Collaborators τ}

theorem Run.Related.call {x : Run σ α} {y : Run τ α} (h : Run.Related R x y) :
    Run.Related (EvaluatorState.SameCache R) (EvaluatorState.call x) (EvaluatorState.call y) := by
  rintro s t ⟨hworld, hcache⟩
  obtain ⟨hresult, hworld'⟩ := h s.world t.world hworld
  exact ⟨hresult, hworld', hcache⟩

theorem lookupSubscriber_related {environmentId subscriberId : String}
    (hfind : Run.Related R (c.findSubscriber environmentId subscriberId)
      (c'.findSubscriber environmentId subscriberId))
    (hnow : ∀ s t, R s t → c.now s = c'.now t) :
    Run.Related (EvaluatorState.SameCache R) (lookupSubscriber c environmentId subscriberId)
      (lookupSubscriber c' environmentId subscriberId) := by
  rintro s t ⟨hworld, hcache⟩
  simp only [lookupSubscriber]
  rw [Run.bind_of_ok (show Run.get s = (.ok s, s) from rfl),
    Run.bind_of_ok (show Run.get t = (.ok t, t) from rfl), hcache, hnow _ _ hworld]
  cases t.cache.probe (environmentId, subscriberId) (c'.now t.world) with
  | some subscriber => exact ⟨rfl, hworld, hcache⟩
  | none =>
    refine (hfind.call.bind fun found => ?_) s t ⟨hworld, hcache⟩
    rintro s t ⟨hworld, hcache⟩
    refine ⟨rfl, hworld, ?_⟩
    change s.cache.commit _ found (c.now s.world) = t.cache.commit _ found (c'.now t.world)
    rw [hcache, hnow _ _ hworld]

end

/-! ### Recording changes nothing -/

section

variable (c : Collaborators σ) (ctx : Context)

theorem recorded_alike :
    Alike (EvaluatorState.SameCache fun (s : σ × List Call) t => s.1 = t) c.recorded c ctx := by
  have hcall : ∀ {α : Type} (call : Call) (x : Run σ α),
      Run.Related (fun (s : σ × List Call) t => s.1 = t) (x.recorded call) x := by
    rintro α call x s _ rfl
    exact ⟨rfl, rfl⟩
  exact {
    subscriber := lookupSubscriber_related (hcall _ _) fun s t h => congrArg c.now h
    job := fun _ => (hcall _ _).call
    message := fun _ => (hcall _ _).call
    opened := fun _ => (hcall _ _).call
    environment := (hcall _ _).call
    post := fun _ => (hcall _ _).call
    keep := fun entry s t h => ((hcall (.keep entry) (c.keep entry)).call s t h).2
    now := fun s t h => congrArg c.now h.1 }

/-- With a recorder, an evaluation comes to the same result and the same state. -/
theorem decideStep_recorded (header : String) (filters : List Node)
    (s : EvaluatorState (σ × List Call)) :
    (decideStep c.recorded header filters ctx s).1 = (decideStep c header filters ctx s.forget).1 ∧
      (decideStep c.recorded header filters ctx s).2.forget
        = (decideStep c header filters ctx s.forget).2 := by
  have hrelated : Run.Related _ (decideStep c.recorded header filters ctx)
      (decideStep c header filters ctx) := decideStep_related (recorded_alike c ctx) filters
  obtain ⟨hresult, hworld, hcache⟩ := hrelated s s.forget ⟨rfl, rfl⟩
  exact ⟨hresult, EvaluatorState.mk.injEq .. |>.mpr ⟨hworld, hcache⟩⟩

end

/-! ### Which calls are made -/

section

variable {c : Collaborators σ} {ctx : Context} {header : String} {vars : Variables}
  {P : List Call → Prop}

theorem recorded_keeps {call : Call} (hcall : ∀ calls, P calls → P (calls ++ [call]))
    (x : Run σ α) :
    Run.Related (fun s t => s = t ∧ P s.2) (x.recorded call) (x.recorded call) := by
  rw [Run.related_self_iff]
  exact fun s hs => hcall s.2 hs

/-- What holds of the recorded calls and is kept by lookups holds after lookups, too. -/
theorem lookups_keep (hcall : ∀ call : Call, call.request? = none → call.entry? = none →
      ∀ calls, P calls → P (calls ++ [call])) :
    LookupsAlike (EvaluatorState.SameCache fun s t => s = t ∧ P s.2)
      c.recorded c.recorded ctx where
  subscriber := lookupSubscriber_related (recorded_keeps (hcall _ rfl rfl) _)
    fun s t h => by rw [h.1]
  job _ := (recorded_keeps (hcall _ rfl rfl) _).call
  message _ := (recorded_keeps (hcall _ rfl rfl) _).call
  opened _ := (recorded_keeps (hcall _ rfl rfl) _).call
  now s t h := by rw [h.1.1]

/-- What is kept by requests as well holds after webhooks, too. -/
theorem webhooks_keep (hcall : ∀ call : Call, call.entry? = none →
      ∀ calls, P calls → P (calls ++ [call])) :
    WebhooksAlike (EvaluatorState.SameCache fun s t => s = t ∧ P s.2)
      c.recorded c.recorded ctx where
  toLookupsAlike := lookups_keep fun call _ hentry => hcall call hentry
  environment := (recorded_keeps (hcall _ rfl) _).call
  post _ := (recorded_keeps (hcall _ rfl) _).call

theorem filterMap_concat_unseen {β : Type} {view : Call → Option β} {seen : List β} {call : Call}
    (hcall : view call = none) (calls : List Call) (h : calls.filterMap view = seen) :
    (calls ++ [call]).filterMap view = seen := by
  simp [hcall, h]

/-- What is seen of the calls stays the same if a computation keeps it, whatever it is. -/
theorem view_eq_of_related {β : Type} {view : Call → Option β}
    {x : Run (EvaluatorState (σ × List Call)) α}
    (h : ∀ seen, Run.Related (EvaluatorState.SameCache fun s t =>
      s = t ∧ s.2.filterMap view = seen) x x) (s : EvaluatorState (σ × List Call)) :
    (x s).2.world.2.filterMap view = s.world.2.filterMap view :=
  (h _ s s ⟨⟨rfl, rfl⟩, rfl⟩).2.1.2

/-- Lookups send no request. -/
theorem lookups_requests (seen : List Request) :
    LookupsAlike (EvaluatorState.SameCache fun s t => s = t ∧ s.2.filterMap Call.request? = seen)
      c.recorded c.recorded ctx :=
  lookups_keep fun _ hcall _ => filterMap_concat_unseen hcall

/-- Filters without webhook leaves send no request. -/
theorem walk_requests_of_local {node : Node} (hlocal : ∀ l ∈ node.leaves, l.isWebhook = false)
    (s : EvaluatorState (σ × List Call)) :
    (walk (checkLeaf c.recorded header ctx vars) node s).2.requests = s.requests :=
  view_eq_of_related (fun seen => walk_related fun l hl =>
    checkLocalLeaf_related (lookups_requests seen) (hlocal l hl)) s

theorem checkLocalLeaf_requests {l : Leaf} (hlocal : l.isWebhook = false)
    (s : EvaluatorState (σ × List Call)) :
    (checkLeaf c.recorded header ctx vars l s).2.requests = s.requests :=
  view_eq_of_related (fun seen => checkLocalLeaf_related (lookups_requests seen) hlocal) s

theorem requestSubscriber_requests (s : EvaluatorState (σ × List Call)) :
    (requestSubscriber c.recorded ctx vars s).2.requests = s.requests :=
  view_eq_of_related (fun seen => requestSubscriber_related (lookups_requests seen)) s

theorem variablesOf_requests (s : EvaluatorState (σ × List Call)) :
    (variablesOf c.recorded ctx s).2.requests = s.requests :=
  view_eq_of_related (fun seen => variablesOf_related (lookups_requests seen)) s

theorem recordAudit_requests (trace : Trace) (passed : Bool)
    (s : EvaluatorState (σ × List Call)) :
    (recordAudit c.recorded ctx trace passed s).2.requests = s.requests := by
  cases hjob : ctx.job with
  | none => rw [recordAudit_none c.recorded hjob]
  | some job =>
    rw [recordAudit_some c.recorded hjob]
    exact filterMap_concat_unseen rfl _ rfl

theorem requests_keep (seen : List Request) :
    WebhooksAlike (EvaluatorState.SameCache fun s t => s = t ∧ seen <+: s.2.filterMap Call.request?)
      c.recorded c.recorded ctx :=
  webhooks_keep (P := fun calls => seen <+: calls.filterMap Call.request?) fun call _ calls h => by
    rw [List.filterMap_append]
    exact h.trans (List.prefix_append _ _)

/-- No request is taken back. -/
theorem walk_requests_prefix (node : Node) (s : EvaluatorState (σ × List Call)) :
    s.requests <+: (walk (checkLeaf c.recorded header ctx vars) node s).2.requests :=
  (walk_related (fun l _ => checkLeaf_related (requests_keep s.requests) l) s s
    ⟨⟨rfl, List.prefix_refl _⟩, rfl⟩).2.1.2

theorem walkPart_requests_prefix (operator : GroupOperator) (webhooks : Bool) (children : List Node)
    (s : EvaluatorState (σ × List Call)) :
    s.requests <+:
      (walkPart (checkLeaf c.recorded header ctx vars) operator webhooks children s).2.requests :=
  (walkPart_related (fun l => checkLeaf_related (requests_keep s.requests) l) s s
    ⟨⟨rfl, List.prefix_refl _⟩, rfl⟩).2.1.2

/-- A leaf leaves no audit entry. -/
theorem checkLeaf_entries (l : Leaf) (s : EvaluatorState (σ × List Call)) :
    (checkLeaf c.recorded header ctx vars l s).2.entries = s.entries :=
  view_eq_of_related
    (fun _ => checkLeaf_related (webhooks_keep fun _ => filterMap_concat_unseen) l) s

theorem variablesOf_entries (s : EvaluatorState (σ × List Call)) :
    (variablesOf c.recorded ctx s).2.entries = s.entries :=
  view_eq_of_related
    (fun _ => variablesOf_related (lookups_keep fun _ _ => filterMap_concat_unseen)) s

/-- The entry tells of a trace whose filter had this verdict, for a job and a context. -/
structure AuditEntry.Records (ctx : Context) (job : CurrentJob) (trace : Trace) (passed : Bool)
    (entry : AuditEntry) : Prop where
  jobId : entry.jobId = job.id
  environmentId : entry.environmentId = ctx.environmentId
  organizationId : entry.organizationId = ctx.organizationId
  subscriberId : entry.subscriberId = ctx.subscriberId
  transactionId : entry.transactionId = ctx.transactionId
  detail : entry.detail = "Filter processing"
  passed : entry.passed = passed
  raw : entry.raw = trace.toJson.compact

/-- A trace that is recorded for a job leaves one entry, kept or not. -/
theorem recordAudit_entries {job : CurrentJob} (hjob : ctx.job = some job) (trace : Trace)
    (passed : Bool) (s : EvaluatorState (σ × List Call)) :
    ∃ entry : AuditEntry, entry.Records ctx job trace passed ∧
      (recordAudit c.recorded ctx trace passed s).2.entries = s.entries ++ [entry] := by
  refine ⟨ctx.auditEntry job trace passed (c.now s.world.1),
    ⟨rfl, rfl, rfl, rfl, rfl, rfl, rfl, rfl⟩, ?_⟩
  rw [recordAudit_some c.recorded hjob]
  exact List.filterMap_append

end

end DeliveryGate
