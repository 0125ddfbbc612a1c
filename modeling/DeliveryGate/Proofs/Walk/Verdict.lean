import DeliveryGate.Proofs.Evaluation.Constant
import DeliveryGate.Proofs.Walk.Plan
import Mathlib.Logic.Relation

/-!
# Verdicts

What a filter means when each leaf has a verdict: AND asks for all children, OR for some, and a
group without children holds. The engine visits webhooks last and stops early, looks subscribers up
through a cache and leaves audit entries between the filters. `decideStep_passed_iff` says that none
of this shows in the verdict: if no leaf changes its verdict during the call, then the step runs
exactly if some filter of the list holds.
-/

namespace DeliveryGate

namespace Node

/-- Whether a filter holds when its leaves have these verdicts. -/
def holds (val : Leaf → Bool) : Node → Bool
  | .leaf l => val l
  | .group operator children =>
    children.isEmpty || match operator with
      | .and => children.attach.all fun child => child.1.holds val
      | .or => children.attach.any fun child => child.1.holds val
decreasing_by
  all_goals
    have := List.sizeOf_lt_of_mem child.2
    simp only [group.sizeOf_spec]
    omega

variable (val : Leaf → Bool)

theorem holds_leaf (l : Leaf) : (leaf l).holds val = val l := by rw [holds]

theorem holds_and (children : List Node) :
    (group .and children).holds val = children.all (holds val) := by
  rw [holds]
  cases children <;> simp

theorem holds_or {children : List Node} (h : children ≠ []) :
    (group .or children).holds val = children.any (holds val) := by
  rw [holds]
  cases children <;> simp_all

theorem holds_nil (operator : GroupOperator) : (group operator []).holds val = true := by
  cases operator <;> rw [holds] <;> rfl

end Node

namespace Plan

variable (val : Leaf → Bool)

/-- The verdict of a plan whose leaves have these verdicts. -/
def eval : Plan → Bool
  | done verdict => verdict
  | ask l next => (next (val l)).eval

theorem eval_andThen (f : Bool → Plan) : ∀ plan : Plan,
    (plan.andThen f).eval val = (f (plan.eval val)).eval val
  | done _ => rfl
  | ask l next => eval_andThen f (next (val l))

/-- A sequence of plans comes to the settling verdict exactly if one of them does. -/
theorem eval_untilSettled (operator : GroupOperator) : ∀ plans : List Plan,
    ((untilSettled operator plans).eval val = operator.decisive) ↔
      ∃ plan ∈ plans, plan.eval val = operator.decisive
  | [] => by cases operator <;> simp [untilSettled, eval, GroupOperator.decisive]
  | plan :: rest => by
    rw [untilSettled, eval_andThen]
    by_cases h : plan.eval val = operator.decisive
    · simp [h, eval]
    · simp [h, eval_untilSettled operator rest]

end Plan

/-- The plan of a filter comes to the verdict that the filter has. -/
theorem Node.eval_plan (val : Leaf → Bool) (node : Node) :
    node.plan.eval val = node.holds val := by
  induction node using Node.inductionOn with
  | leaf l => rw [plan_leaf, holds_leaf]; rfl
  | group operator children ih =>
    rw [plan_group]
    split
    · rename_i hempty
      rw [List.isEmpty_iff.mp hempty, holds_nil]
      rfl
    · rename_i hsome
      have hsettled := Plan.eval_untilSettled val operator ((visitOrder children).map plan)
      have hchildren : (∃ p ∈ (visitOrder children).map plan, p.eval val = operator.decisive) ↔
          ∃ child ∈ children, child.holds val = operator.decisive := by
        simp only [List.mem_map, exists_exists_and_eq_and, mem_visitOrder]
        exact exists_congr fun child => and_congr_right fun hmem => by rw [ih child hmem]
      rw [hchildren] at hsettled
      cases operator with
      | and =>
        rw [holds_and, Bool.eq_iff_iff, List.all_eq_true, ← not_iff_not]
        simpa [GroupOperator.decisive] using hsettled
      | or =>
        rw [holds_or val (by simpa using hsome), Bool.eq_iff_iff, List.any_eq_true]
        exact hsettled

/-! ### Leaves that keep their verdicts -/

section

variable {τ : Type} {check : Leaf → Run τ Condition} {val : Leaf → Bool}

/-- If every leaf of a plan succeeds with its verdict, in all states that the answers lead to, then
so does the plan. -/
theorem Plan.run_of_steady {reached : τ → Prop} : ∀ {plan : Plan},
    (∀ l, plan.MayAsk l → ∀ s, reached s → ∃ condition t,
      check l s = (.ok condition, t) ∧ condition.passed = val l ∧ reached t) →
    ∀ {s}, reached s → ∃ conditions t,
      plan.run check s = (.ok (plan.eval val, conditions), t) ∧ reached t
  | .done verdict, _, s, hs => ⟨[], s, rfl, hs⟩
  | .ask l next, h, s, hs => by
    obtain ⟨condition, t, hcheck, hval, ht⟩ := h l .here s hs
    obtain ⟨more, t', hrun, ht'⟩ :=
      run_of_steady (fun m hm => h m (.later (val l) hm)) ht
    refine ⟨condition :: more, t', ?_, ht'⟩
    rw [Plan.run, Run.bind_of_ok hcheck, hval, Run.bind_of_ok hrun]
    rfl

end

section

variable {σ : Type} (c : Collaborators σ) (header : String) (ctx : Context) (vars : Variables)

/-- What may happen next to the state while filters are evaluated: one of their leaves is answered,
or a trace is recorded. -/
inductive Advance (filters : List Node) : EvaluatorState σ → EvaluatorState σ → Prop
  | leaf {filter : Node} {l : Leaf} {s : EvaluatorState σ} : filter ∈ filters → l ∈ filter.leaves →
      Advance filters s (checkLeaf c header ctx vars l s).2
  | audit {trace : Trace} {passed : Bool} {s : EvaluatorState σ} :
      Advance filters s (recordAudit c ctx trace passed s).2

/-- Whenever a leaf of these filters is asked after this state, it succeeds with its verdict. -/
def Steady (filters : List Node) (val : Leaf → Bool) (start : EvaluatorState σ) : Prop :=
  ∀ s, Relation.ReflTransGen (Advance c header ctx vars filters) start s →
    ∀ filter ∈ filters, ∀ l ∈ filter.leaves, ∃ condition t,
      checkLeaf c header ctx vars l s = (.ok condition, t) ∧ condition.passed = val l

variable {c header ctx vars} {filters : List Node} {val : Leaf → Bool} {start : EvaluatorState σ}

/-- With collaborators that do not change, leaves that succeed at first keep their verdicts. -/
theorem Collaborators.Constant.steady {kind : σ → Prop} {now : Instant} (hc : c.Constant kind now)
    (hstart : kind start.world)
    (hval : ∀ filter ∈ filters, ∀ l ∈ filter.leaves, ∃ condition t,
      checkLeaf c header ctx vars l start = (.ok condition, t) ∧ condition.passed = val l) :
    Steady c header ctx vars filters val start := by
  obtain ⟨fetched, hfetch⟩ : ∃ fetched, ∀ s, kind s →
      (c.findSubscriber ctx.environmentId ctx.subscriberId s).1 = fetched :=
    ⟨_, fun s hs => (hc.findSubscriber _ _ s start.world ⟨hs, hstart⟩).1⟩
  obtain ⟨answer, hanswer⟩ : ∃ answer,
      start.cache.answer (ctx.environmentId, ctx.subscriberId) now fetched = answer := ⟨_, rfl⟩
  have halike := hc.alike ctx answer hfetch
  have hserving : start.Serving kind (ctx.environmentId, ctx.subscriberId) now fetched answer :=
    ⟨hstart, hanswer⟩
  -- every state of the call serves the subscriber as the first one does
  have hreached : ∀ s, Relation.ReflTransGen (Advance c header ctx vars filters) start s →
      s.Serving kind (ctx.environmentId, ctx.subscriberId) now fetched answer := by
    intro s hs
    induction hs with
    | refl => exact hserving
    | tail _ hstep ih =>
      cases hstep with
      | leaf _ _ => exact (checkLeaf_related halike.toWebhooksAlike _ _ _ ⟨ih, ih⟩).2.1
      | audit => exact (recordAudit_related halike _ _ _ _ ⟨ih, ih⟩).2.1
  intro s hs filter hmem l hl
  obtain ⟨condition, t, hcheck, hpassed⟩ := hval filter hmem l hl
  have hsame : (checkLeaf c header ctx vars l s).1 = (checkLeaf c header ctx vars l start).1 :=
    (checkLeaf_related halike.toWebhooksAlike l s start ⟨hreached s hs, hserving⟩).1
  rw [hcheck] at hsame
  exact ⟨condition, (checkLeaf c header ctx vars l s).2, Prod.ext hsame rfl, hpassed⟩

theorem walk_of_steady (hsteady : Steady c header ctx vars filters val start) {filter : Node}
    (hmem : filter ∈ filters) {s : EvaluatorState σ}
    (hs : Relation.ReflTransGen (Advance c header ctx vars filters) start s) :
    ∃ conditions t, walk (checkLeaf c header ctx vars) filter s =
        (.ok (filter.holds val, conditions), t) ∧
      Relation.ReflTransGen (Advance c header ctx vars filters) start t := by
  rw [walk_eq_run, ← Node.eval_plan]
  refine Plan.run_of_steady (fun l hl s hs => ?_) hs
  have hleaf := Node.mem_leaves_of_mayAsk filter hl
  obtain ⟨condition, t, hcheck, hval⟩ := hsteady s hs filter hmem l hleaf
  have hstep : Advance c header ctx vars filters s (checkLeaf c header ctx vars l s).2 :=
    .leaf hmem hleaf
  rw [hcheck] at hstep
  exact ⟨condition, t, hcheck, hval, hs.tail hstep⟩

/-- The alternatives that are left pass exactly if one of them holds. -/
theorem walkFilters_of_steady (hsteady : Steady c header ctx vars filters val start) :
    ∀ {rest : List Node}, rest ⊆ filters → ∀ {s : EvaluatorState σ},
    Relation.ReflTransGen (Advance c header ctx vars filters) start s →
    ∃ traces t, walkFilters c header ctx vars rest s = (.ok (rest.any (Node.holds val), traces), t)
  | [], _, s, _ => ⟨[], s, rfl⟩
  | filter :: rest, hsub, s, hs => by
    obtain ⟨hmem, hrest⟩ := List.cons_subset.mp hsub
    obtain ⟨conditions, t, hwalk, ht⟩ := walk_of_steady hsteady hmem hs
    have hstep : Advance c header ctx vars filters t
        (recordAudit c ctx ⟨filter, vars, conditions⟩ (filter.holds val) t).2 := .audit
    obtain ⟨traces, t', hmore⟩ := walkFilters_of_steady hsteady hrest (ht.tail hstep)
    rw [walkFilters, Run.bind_of_ok hwalk, List.any_cons]
    dsimp only
    rw [Run.bind_of_ok (recordAudit_ok ..)]
    cases hverdict : filter.holds val with
    | true => exact ⟨_, _, rfl⟩
    | false =>
      rw [hverdict] at hmore
      rw [if_neg Bool.false_ne_true, Run.bind_of_ok hmore]
      exact ⟨_, _, rfl⟩

/-- If no leaf changes its verdict during the call, then the step runs exactly if some filter of the
list holds. -/
theorem decideStep_passed_iff {stop : EvaluatorState σ} (hne : filters ≠ [])
    (hvars : variablesOf c ctx start = (.ok vars, stop))
    (hsteady : Steady c header ctx vars filters val stop) :
    ∃ outcome t, decideStep c header filters ctx start = (.ok outcome, t) ∧
      (outcome.passed = true ↔ ∃ filter ∈ filters, filter.holds val = true) := by
  obtain ⟨traces, t, hwalk⟩ := walkFilters_of_steady hsteady (List.Subset.refl _) .refl
  refine ⟨Outcome.ofTraces (filters.any (Node.holds val)) vars traces, t, ?_, ?_⟩
  · rw [decideStep, if_neg (by simpa using hne), Run.bind_of_ok hvars, Run.bind_of_ok hwalk]
    rfl
  · exact List.any_eq_true

/-- Two alternatives for the sample: the first says no, and the second says yes. -/
def sampleFilters : List Node :=
  [.group .and [.asksWebhook "https://a.test" "yes", .group .or [], .asksPlan "free"],
    .group .or [.group .and [.asksWebhook "https://a.test" "no"],
      .group .and [.leaf (.online true), .asksPlan "pro"]]]

/-- The verdicts of the leaves in the sample. -/
def Leaf.sampleVerdict : Leaf → Bool
  | .field _ test => test.expected == "pro"
  | .webhook _ test => test.expected == "yes"
  | .online expected => expected
  | _ => false

/-- The sample does not change, so its step runs. -/
theorem decideStep_passed_iff_sample :
    ∃ vars stop, variablesOf World.collaborators Context.sample .sample = (.ok vars, stop) ∧
      Steady World.collaborators "signature" Context.sample vars sampleFilters Leaf.sampleVerdict
        stop ∧
      ∃ outcome t, decideStep World.collaborators "signature" sampleFilters Context.sample .sample
        = (.ok outcome, t) ∧ outcome.passed = true := by
  obtain ⟨vars, hvars, hleaves⟩ : ∃ vars,
      (variablesOf World.collaborators Context.sample .sample).1 = .ok vars ∧
      ∀ filter ∈ sampleFilters, ∀ l ∈ filter.leaves, ∃ condition t,
        checkLeaf World.collaborators "signature" Context.sample vars l
          (variablesOf World.collaborators Context.sample .sample).2 = (.ok condition, t) ∧
          condition.passed = l.sampleVerdict := by
    refine ⟨_, rfl, ?_⟩
    simp only [sampleFilters, Node.asksWebhook, Node.asksPlan, List.forall_mem_cons,
      Node.leaves_group, Node.leaves_leaf, List.flatMap_cons, List.flatMap_nil, List.append_nil,
      List.cons_append, List.nil_append, List.not_mem_nil, false_imp_iff, implies_true, and_true]
    exact ⟨⟨⟨_, _, rfl, by decide⟩, _, _, rfl, by decide⟩, ⟨_, _, rfl, by decide⟩,
      ⟨_, _, rfl, by decide⟩, _, _, rfl, by decide⟩
  have hrun : variablesOf World.collaborators Context.sample .sample
      = (.ok vars, (variablesOf World.collaborators Context.sample .sample).2) := Prod.ext hvars rfl
  have hscript : ∀ entry ∈ World.sample.script, entry.2.length ≤ 1 := by decide
  have hsteady := (World.constant_collaborators hscript).steady ⟨_, rfl⟩ hleaves
  obtain ⟨outcome, t, hdecide, hpassed⟩ :=
    decideStep_passed_iff (List.cons_ne_nil _ _) hrun hsteady
  refine ⟨vars, _, hrun, hsteady, outcome, t, hdecide, hpassed.mpr ⟨_, .tail _ (.head _), ?_⟩⟩
  rw [Node.holds_or _ (List.cons_ne_nil _ _)]
  simp [Node.holds_and, Node.holds_leaf, Node.asksPlan, Leaf.sampleVerdict]

end

end DeliveryGate
