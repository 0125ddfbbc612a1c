import DeliveryGate.Evaluation.LeafCheck
import DeliveryGate.Evaluation.Usage
import DeliveryGate.Wire.Evaluation

/-!
# Deciding a step

A step's filters are alternatives: the first one that passes lets the step run, and no filters at
all do so too. Inside a group the children that are no webhooks come first, then the webhooks, and
the visit ends as soon as a child settles the group; a group without children passes. Every filter
that was evaluated leaves a trace, and an audit entry if there is a job; a failure ends the
evaluation, except one in keeping an audit entry.
-/

namespace DeliveryGate

section

variable {τ : Type} (check : Leaf → Run τ Condition)

mutual

/-- The verdict of a tree and the conditions of its visited leaves in order. -/
def walk : Node → Run τ (Bool × List Condition)
  | .leaf l => do
    let condition ← check l
    return (condition.passed, [condition])
  | .group operator children => do
    if children.isEmpty then return (true, [])
    let (decided, first) ← walkPart operator false children
    if decided then return (operator.decisive, first)
    let (decided, second) ← walkPart operator true children
    return (if decided then operator.decisive else !operator.decisive, first ++ second)

/-- Visit the children of a group that are webhooks, or those that are not, up to one that settles
the group: whether there was one, and the conditions. -/
def walkPart (operator : GroupOperator) (webhooks : Bool) :
    List Node → Run τ (Bool × List Condition)
  | [] => return (false, [])
  | child :: rest => do
    if child.isWebhook != webhooks then walkPart operator webhooks rest
    else
      let (verdict, conditions) ← walk child
      if verdict == operator.decisive then return (true, conditions)
      let (decided, more) ← walkPart operator webhooks rest
      return (decided, conditions ++ more)

end

end

/-- The detail that audit entries of an evaluation carry. -/
def auditDetail : String := "Filter processing"

namespace Context

/-- The variables that the context itself gives: the payload is its own, or else that of its job. -/
def baseVariables (ctx : Context) : Variables :=
  { subscriber := ctx.subscriber.map Subscriber.toJson
    payload := ctx.payload.or (ctx.job.bind CurrentJob.payload)
    tenant := ctx.tenant }

/-- The audit entry of a trace. -/
def auditEntry (ctx : Context) (job : CurrentJob) (trace : Trace) (passed : Bool)
    (now : Instant) : AuditEntry :=
  { jobId := job.id
    environmentId := ctx.environmentId
    organizationId := ctx.organizationId
    subscriberId := ctx.subscriberId
    transactionId := ctx.transactionId
    detail := auditDetail
    passed := passed
    raw := trace.toJson.compact
    createdAt := now }

end Context

namespace Outcome

/-- The outcome with these traces. -/
def ofTraces (passed : Bool) (vars : Variables) (traces : List Trace) : Outcome :=
  let conditions := traces.flatMap Trace.conditions
  ⟨passed, vars, traces, conditions, Usage.ofConditions conditions⟩

end Outcome

section

variable {σ : Type} (c : Collaborators σ)

/-- The variables of an evaluation: a subscriber that the context only names is looked up. -/
def variablesOf (ctx : Context) : Run (EvaluatorState σ) Variables := do
  let base := ctx.baseVariables
  if base.subscriber.isNone && !ctx.subscriberId.isEmpty then
    let found ← lookupSubscriber c ctx.environmentId ctx.subscriberId
    return { base with subscriber := found.map Subscriber.toJson }
  return base

/-- Leave an audit entry, if there is a job; it does not matter whether it is kept. -/
def recordAudit (ctx : Context) (trace : Trace) (passed : Bool) :
    Run (EvaluatorState σ) Unit := do
  match ctx.job with
  | none => return ()
  | some job =>
    let state ← Run.get
    let _ ← Run.attempt (EvaluatorState.call
      (c.keep (ctx.auditEntry job trace passed (c.now state.world))))
    return ()

theorem recordAudit_none {ctx : Context} (hjob : ctx.job = none) (trace : Trace) (passed : Bool)
    (s : EvaluatorState σ) : recordAudit c ctx trace passed s = (.ok (), s) := by
  rw [recordAudit, hjob]
  rfl

theorem recordAudit_some {ctx : Context} {job : CurrentJob} (hjob : ctx.job = some job)
    (trace : Trace) (passed : Bool) (s : EvaluatorState σ) :
    recordAudit c ctx trace passed s = (.ok (),
      (EvaluatorState.call (c.keep (ctx.auditEntry job trace passed (c.now s.world))) s).2) := by
  rw [recordAudit, hjob]
  rfl

/-- Keeping audit entries never ends an evaluation. -/
theorem recordAudit_ok (ctx : Context) (trace : Trace) (passed : Bool) (s : EvaluatorState σ) :
    recordAudit c ctx trace passed s = (.ok (), (recordAudit c ctx trace passed s).2) := by
  cases hjob : ctx.job with
  | none => rw [recordAudit_none c hjob]
  | some job => rw [recordAudit_some c hjob]

/-- Evaluate alternatives up to the first that passes: whether one did, and the traces. -/
def walkFilters (header : String) (ctx : Context) (vars : Variables) :
    List Node → Run (EvaluatorState σ) (Bool × List Trace)
  | [] => return (false, [])
  | filter :: rest => do
    let (passed, conditions) ← walk (checkLeaf c header ctx vars) filter
    let trace : Trace := ⟨filter, vars, conditions⟩
    recordAudit c ctx trace passed
    if passed then return (true, [trace])
    let (passed, traces) ← walkFilters header ctx vars rest
    return (passed, trace :: traces)

/-- Decide whether a step runs. -/
def decideStep (header : String) (filters : List Node) (ctx : Context) :
    Run (EvaluatorState σ) Outcome := do
  if filters.isEmpty then return Outcome.ofTraces true ctx.baseVariables []
  let vars ← variablesOf c ctx
  let (passed, traces) ← walkFilters c header ctx vars filters
  return Outcome.ofTraces passed vars traces

end

end DeliveryGate
