import DeliveryGate.Proofs.Evaluation.Constant
import DeliveryGate.Proofs.Walk.Plan

/-!
# Replaying a trace

The conditions of a trace are a record of the leaves that were visited. `Node.replay` visits a
filter again with the record in place of the leaves: each leaf takes the next condition, which must
be of its kind, and counts its verdict. `decideStep_justified` says that the traces of an outcome
justify it: each is consumed exactly by its own filter, and the verdicts so replayed are those on
which the outcome rests.
-/

namespace DeliveryGate

/-- How the replay of a record ends. -/
inductive Replay where
  /-- With a verdict; these conditions are left over. -/
  | done (verdict : Bool) (rest : List Condition)
  /-- The record ends where this leaf is to be visited. -/
  | awaits (leaf : Leaf)
  /-- The next condition is not of the kind of this leaf. -/
  | mismatch (leaf : Leaf)

namespace Replay

def andThen : Replay → (Bool → List Condition → Replay) → Replay
  | done verdict rest, f => f verdict rest
  | awaits l, _ => awaits l
  | mismatch l, _ => mismatch l

end Replay

namespace Node

mutual

/-- Visit a filter with a record in place of its leaves. -/
def replay : Node → List Condition → Replay
  | .leaf l, [] => .awaits l
  | .leaf l, condition :: rest =>
    if condition.filter = l.kind.name then .done condition.passed rest else .mismatch l
  | .group operator children, record =>
    if children.isEmpty then .done true record
    else replayUntilSettled operator (visitOrder children) record
termination_by node => (sizeOf node, 0)
decreasing_by
  have := (visitOrder_perm children).sizeOf_eq_sizeOf
  simp only [group.sizeOf_spec, this]
  exact Prod.Lex.left _ _ (by omega)

/-- Visit children up to one that says no, under AND, or yes, under OR. -/
def replayUntilSettled (operator : GroupOperator) : List Node → List Condition → Replay
  | [], record => .done (operator == .and) record
  | child :: rest, record => (child.replay record).andThen fun verdict left =>
      match operator, verdict with
      | .and, false => .done false left
      | .or, true => .done true left
      | _, _ => replayUntilSettled operator rest left
termination_by children => (sizeOf children, 1)

end

end Node

namespace Plan

/-- Follow a plan with a record in place of its leaves. -/
def replay : Plan → List Condition → Replay
  | done verdict, record => .done verdict record
  | ask l _, [] => .awaits l
  | ask l next, condition :: rest =>
    if condition.filter = l.kind.name then (next condition.passed).replay rest else .mismatch l

theorem replay_andThen (f : Bool → Plan) : ∀ (plan : Plan) (record : List Condition),
    (plan.andThen f).replay record =
      (plan.replay record).andThen fun verdict rest => (f verdict).replay rest
  | done _, _ => rfl
  | ask _ _, [] => rfl
  | ask l next, condition :: rest => by
    simp only [andThen, replay]
    split
    · exact replay_andThen f (next condition.passed) rest
    · rfl

end Plan

theorem Node.replayUntilSettled_eq (operator : GroupOperator) : ∀ {children : List Node},
    (∀ child ∈ children, ∀ record, child.replay record = child.plan.replay record) →
    ∀ record, replayUntilSettled operator children record =
      (Plan.untilSettled operator (children.map plan)).replay record
  | [], _, record => by
    rw [replayUntilSettled]
    cases operator <;> rfl
  | child :: rest, h, record => by
    rw [replayUntilSettled, List.map_cons, Plan.untilSettled, Plan.replay_andThen,
      h child (List.mem_cons_self ..)]
    refine congrArg _ (funext fun verdict => funext fun left => ?_)
    have hrest := replayUntilSettled_eq operator
      (fun other hmem => h other (List.mem_cons_of_mem _ hmem)) left
    cases operator with
    | and =>
      cases verdict with
      | false => rfl
      | true => exact hrest
    | or =>
      cases verdict with
      | false => exact hrest
      | true => rfl

/-- To replay a filter is to follow its plan. -/
theorem Node.replay_eq (node : Node) : ∀ record, node.replay record = node.plan.replay record := by
  induction node using Node.inductionOn with
  | leaf l =>
    intro record
    rw [plan_leaf]
    cases record <;> rw [replay] <;> rfl
  | group operator children ih =>
    intro record
    rw [replay, plan_group]
    split
    · rfl
    · exact replayUntilSettled_eq operator (fun child h => ih child (mem_visitOrder.mp h)) record

/-! ### The conditions of a run -/

/-- A successful run is replayed from its own conditions, whatever stands behind them. -/
theorem Plan.replay_of_run {τ : Type} {check : Leaf → Run τ Condition}
    (hkind : ∀ {l s condition t}, check l s = (.ok condition, t) → condition.filter = l.kind.name)
    (rest : List Condition) :
    ∀ {plan : Plan} {s t : τ} {verdict : Bool} {conditions : List Condition},
    plan.run check s = (.ok (verdict, conditions), t) →
      plan.replay (conditions ++ rest) = .done verdict rest
  | .done verdict, s, t, _, _, h => by
    cases h
    rfl
  | .ask l next, s, t, verdict, conditions, h => by
    obtain ⟨condition, s₁, hcheck, h⟩ := Run.bind_eq_ok_iff.mp h
    obtain ⟨⟨v, more⟩, s₂, hrun, h⟩ := Run.bind_eq_ok_iff.mp h
    cases h
    rw [List.cons_append, replay, if_pos (hkind hcheck)]
    exact replay_of_run hkind rest hrun

theorem Presence.checkOnlineInLast_filter (window : Int) (unit : TimeUnit)
    (subscriber : Option Subscriber) (now : Instant) :
    (checkOnlineInLast window unit subscriber now).filter = Kind.isOnlineInLast.name := by
  simp only [checkOnlineInLast]
  split
  · rfl
  · split
    · rfl
    · split <;> rfl

section

variable {σ : Type} {c : Collaborators σ} {header : String} {ctx : Context} {vars : Variables}

theorem checkPreviousStep_filter {step : String} {state : StepState} {s t : σ}
    {condition : Condition} (h : checkPreviousStep c ctx step state s = (.ok condition, t)) :
    condition.filter = Kind.previousStep.name := by
  obtain ⟨job, s₁, -, h⟩ := Run.bind_eq_ok_iff.mp h
  cases job with
  | none => cases h; rfl
  | some job =>
    obtain ⟨message, s₂, -, h⟩ := Run.bind_eq_ok_iff.mp h
    cases message with
    | none => cases h; rfl
    | some message =>
      dsimp only at h
      split at h
      · obtain ⟨_, _, -, h⟩ := Run.bind_eq_ok_iff.mp h
        cases h
        rfl
      · cases h
        rfl

/-- The condition of a leaf names the kind of the leaf. -/
theorem checkLeaf_filter {l : Leaf} {s t : EvaluatorState σ} {condition : Condition}
    (h : checkLeaf c header ctx vars l s = (.ok condition, t)) :
    condition.filter = l.kind.name := by
  cases l with
  | field source test => cases h; rfl
  | webhook url test =>
    obtain ⟨_, _, -, h⟩ := Run.bind_eq_ok_iff.mp h
    obtain ⟨_, _, -, h⟩ := Run.bind_eq_ok_iff.mp h
    obtain ⟨_, _, -, h⟩ := Run.bind_eq_ok_iff.mp h
    cases h
    rfl
  | online expected =>
    obtain ⟨_, _, -, h⟩ := Run.bind_eq_ok_iff.mp h
    cases h
    rfl
  | onlineInLast window unit =>
    obtain ⟨subscriber, _, -, h⟩ := Run.bind_eq_ok_iff.mp h
    cases h
    exact Presence.checkOnlineInLast_filter ..
  | previousStep step state =>
    exact checkPreviousStep_filter (EvaluatorState.call_eq_iff.mp h).1

/-- The conditions of a walk are consumed exactly when its filter is replayed. -/
theorem replay_of_walk {filter : Node} {s t : EvaluatorState σ} {passed : Bool}
    {conditions : List Condition}
    (h : walk (checkLeaf c header ctx vars) filter s = (.ok (passed, conditions), t)) :
    filter.replay conditions = .done passed [] := by
  rw [walk_eq_run] at h
  rw [Node.replay_eq]
  simpa using Plan.replay_of_run (fun hcheck => checkLeaf_filter hcheck) [] h

/-- The alternatives that were evaluated are the first ones, up to the one that passed; all but the
last are replayed to no, and the last one to the verdict. -/
theorem walkFilters_replay : ∀ {filters : List Node} {s t : EvaluatorState σ} {passed : Bool}
    {traces : List Trace}, filters ≠ [] →
    walkFilters c header ctx vars filters s = (.ok (passed, traces), t) →
    traces.map Trace.filter <+: filters ∧ (passed = false → traces.length = filters.length) ∧
      ∃ earlier last, traces = earlier ++ [last] ∧
        (∀ trace ∈ earlier, trace.filter.replay trace.conditions = .done false []) ∧
        last.filter.replay last.conditions = .done passed []
  | filter :: rest, s, t, passed, traces, _, h => by
    rw [walkFilters] at h
    obtain ⟨⟨verdict, conditions⟩, s₁, hwalk, h⟩ := Run.bind_eq_ok_iff.mp h
    obtain ⟨_, s₂, -, h⟩ := Run.bind_eq_ok_iff.mp h
    have hreplay := replay_of_walk hwalk
    cases verdict with
    | true =>
      cases h
      exact ⟨by simp, by simp, [], ⟨filter, vars, conditions⟩, rfl, by simp, hreplay⟩
    | false =>
      obtain ⟨⟨passed', traces'⟩, s₃, hrest, h⟩ := Run.bind_eq_ok_iff.mp h
      cases h
      cases rest with
      | nil =>
        cases hrest
        exact ⟨by simp, by simp, [], ⟨filter, vars, conditions⟩, rfl, by simp, hreplay⟩
      | cons other others =>
        obtain ⟨hpre, hall, earlier, last, rfl, hearlier, hlast⟩ :=
          walkFilters_replay (List.cons_ne_nil other others) hrest
        refine ⟨List.cons_prefix_cons.mpr ⟨rfl, hpre⟩, fun hno => by simp [hall hno],
          ⟨filter, vars, conditions⟩ :: earlier, last, rfl, ?_, hlast⟩
        intro trace hmem
        rcases List.mem_cons.mp hmem with rfl | hmem
        · exact hreplay
        · exact hearlier trace hmem

/-- What an outcome owes to a list of filters. -/
structure Outcome.Justified (filters : List Node) (outcome : Outcome) : Prop where
  /-- The traces belong to the first filters of the list, one each and in their order. -/
  filters_prefix : outcome.traces.map Trace.filter <+: filters
  /-- If no filter passed, then none was left out. -/
  length_of_failed : outcome.passed = false → outcome.traces.length = filters.length
  /-- Each trace is consumed exactly by its filter: all but the last say no, and the last one says
  what the outcome says. -/
  replays : ∃ earlier last, outcome.traces = earlier ++ [last] ∧
    (∀ trace ∈ earlier, trace.filter.replay trace.conditions = .done false []) ∧
    last.filter.replay last.conditions = .done outcome.passed []
  /-- The conditions are those of the traces in order. -/
  conditions_eq : outcome.conditions = outcome.traces.flatMap Trace.conditions
  /-- The summary is that of the conditions. -/
  usage_eq : outcome.usage = Usage.ofConditions outcome.conditions

/-- Whatever the collaborators do: if the evaluation of some filters comes to an outcome, then its
traces justify it. -/
theorem decideStep_justified {filters : List Node} {start stop : EvaluatorState σ}
    {outcome : Outcome} (hne : filters ≠ [])
    (h : decideStep c header filters ctx start = (.ok outcome, stop)) :
    outcome.Justified filters := by
  rw [decideStep, if_neg (by simpa using hne)] at h
  obtain ⟨vars, s₁, -, h⟩ := Run.bind_eq_ok_iff.mp h
  obtain ⟨⟨passed, traces⟩, s₂, hwalk, h⟩ := Run.bind_eq_ok_iff.mp h
  cases h
  obtain ⟨hpre, hall, hreplays⟩ := walkFilters_replay hne hwalk
  exact ⟨hpre, hall, hreplays, rfl, rfl⟩

/-- The sample comes to an outcome with two traces: of a filter that failed, and of one that passed
after its webhook was asked last. -/
theorem decideStep_justified_sample :
    ∃ outcome stop, decideStep World.collaborators "signature"
        [.asksPlan "free", .group .and [.asksWebhook "https://a.test" "yes", .asksPlan "pro"]]
        Context.sample .sample = (.ok outcome, stop) ∧
      outcome.conditions.map Condition.filter = ["payload", "payload", "webhook"] ∧
      outcome.Justified
        [.asksPlan "free", .group .and [.asksWebhook "https://a.test" "yes", .asksPlan "pro"]] := by
  obtain ⟨outcome, stop, hdecide, hfilters⟩ : ∃ outcome stop,
      decideStep World.collaborators "signature"
        [.asksPlan "free", .group .and [.asksWebhook "https://a.test" "yes", .asksPlan "pro"]]
        Context.sample .sample = (.ok outcome, stop) ∧
      outcome.conditions.map Condition.filter = ["payload", "payload", "webhook"] :=
    ⟨_, _, rfl, rfl⟩
  exact ⟨outcome, stop, hdecide, hfilters, decideStep_justified (List.cons_ne_nil _ _) hdecide⟩

end

end DeliveryGate
