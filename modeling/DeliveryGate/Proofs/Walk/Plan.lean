import DeliveryGate.Evaluation.Engine
import Mathlib.Data.List.Basic

/-!
# The plan of a filter

Which leaf is asked next depends only on the verdicts so far. The plan of a filter says how: it is a
tree of leaves that branches on their verdicts. `walk_eq_run` says that to evaluate a filter is to
run its plan, so what is proved of plans, by plain induction, holds of evaluations of filters with
groups at any depth.
-/

namespace DeliveryGate

namespace Node

/-- Induction on filters: a group may use what holds of each of its children. -/
@[elab_as_elim]
theorem inductionOn {motive : Node → Prop} (leaf : ∀ l, motive (.leaf l))
    (group : ∀ operator children, (∀ child ∈ children, motive child) →
      motive (.group operator children)) : ∀ node, motive node
  | .leaf l => leaf l
  | .group operator children =>
    group operator children fun child _ => inductionOn leaf group child

/-- The children in the order in which they are visited: those that need no call of their own
first, then the webhook leaves, each in the order of the document. -/
def visitOrder (children : List Node) : List Node :=
  children.filter (fun child => child.kind != .webhook)
    ++ children.filter fun child => child.kind == .webhook

theorem isWebhook_eq (node : Node) : node.isWebhook = (node.kind == .webhook) := by
  cases node with
  | leaf l =>
    cases l with
    | field source test => cases source <;> rfl
    | webhook | online | onlineInLast | previousStep => rfl
  | group operator children => rfl

theorem visitOrder_perm (children : List Node) : (visitOrder children).Perm children :=
  List.perm_append_comm.trans (List.filter_append_perm _ children)

@[simp] theorem mem_visitOrder {child : Node} {children : List Node} :
    child ∈ visitOrder children ↔ child ∈ children := (visitOrder_perm children).mem_iff

/-- All leaves of a filter, in the order of the document. -/
def leaves : Node → List Leaf
  | .leaf l => [l]
  | .group _ children => children.flatMap leaves

@[simp] theorem leaves_leaf (l : Leaf) : (leaf l).leaves = [l] := by rw [leaves]

@[simp] theorem leaves_group (operator : GroupOperator) (children : List Node) :
    (group operator children).leaves = children.flatMap leaves := by
  rw [leaves]

end Node

/-- A verdict, or a leaf to ask and how to go on after its verdict. -/
inductive Plan where
  | done (verdict : Bool)
  | ask (leaf : Leaf) (next : Bool → Plan)

namespace Plan

/-- Go on with the verdict. -/
def andThen : Plan → (Bool → Plan) → Plan
  | done verdict, f => f verdict
  | ask l next, f => ask l fun verdict => (next verdict).andThen f

/-- One plan after the other, up to one whose verdict settles the group. -/
def untilSettled (operator : GroupOperator) : List Plan → Plan
  | [] => done !operator.decisive
  | plan :: rest => plan.andThen fun verdict =>
      if verdict == operator.decisive then done operator.decisive else untilSettled operator rest

/-- The leaves that a plan may come to ask. -/
inductive MayAsk : Plan → Leaf → Prop
  | here {l : Leaf} {next : Bool → Plan} : MayAsk (ask l next) l
  | later {l l' : Leaf} {next : Bool → Plan} (verdict : Bool) :
      MayAsk (next verdict) l' → MayAsk (ask l next) l'

theorem andThen_assoc (f g : Bool → Plan) : ∀ plan : Plan,
    (plan.andThen f).andThen g = plan.andThen fun verdict => (f verdict).andThen g
  | done _ => rfl
  | ask l next => by
    simp only [andThen]
    congr 1
    funext verdict
    exact andThen_assoc f g (next verdict)

/-- Plans in front of others are asked first, and the others only if these leave the group open. -/
theorem untilSettled_append (operator : GroupOperator) (others : List Plan) :
    ∀ plans : List Plan, untilSettled operator (plans ++ others) =
      (untilSettled operator plans).andThen fun verdict =>
        if verdict == operator.decisive then done operator.decisive
        else untilSettled operator others
  | [] => by cases operator <;> rfl
  | plan :: rest => by
    simp only [List.cons_append, untilSettled, andThen_assoc]
    congr 1
    funext verdict
    rw [untilSettled_append operator others rest]
    split <;> simp [andThen]

theorem mayAsk_andThen {f : Bool → Plan} {l : Leaf} : ∀ {plan : Plan},
    (plan.andThen f).MayAsk l → plan.MayAsk l ∨ ∃ verdict, (f verdict).MayAsk l
  | done verdict, h => Or.inr ⟨verdict, h⟩
  | ask _ _, .here => Or.inl .here
  | ask _ _, .later verdict h => (mayAsk_andThen h).imp_left (.later verdict)

theorem mayAsk_untilSettled {operator : GroupOperator} {l : Leaf} : ∀ {plans : List Plan},
    (untilSettled operator plans).MayAsk l → ∃ plan ∈ plans, plan.MayAsk l
  | plan :: rest, h => by
    rcases mayAsk_andThen h with h | ⟨verdict, h⟩
    · exact ⟨plan, List.mem_cons_self .., h⟩
    · split at h
      · cases h
      · obtain ⟨other, hmem, hask⟩ := mayAsk_untilSettled h
        exact ⟨other, List.mem_cons_of_mem _ hmem, hask⟩

end Plan

namespace Node

/-- How a filter is evaluated: a group passes without children, and otherwise asks them in their
order of visit up to one that settles it. -/
def plan : Node → Plan
  | .leaf l => .ask l .done
  | .group operator children =>
    if children.isEmpty then .done true
    else .untilSettled operator ((visitOrder children).attach.map fun child => child.1.plan)
decreasing_by
  have := List.sizeOf_lt_of_mem (mem_visitOrder.mp child.2)
  simp only [group.sizeOf_spec]
  omega

theorem plan_leaf (l : Leaf) : (leaf l).plan = .ask l .done := by rw [plan]

theorem plan_group (operator : GroupOperator) (children : List Node) :
    (group operator children).plan =
      if children.isEmpty then .done true
      else .untilSettled operator ((visitOrder children).map plan) := by
  rw [plan, List.attach_map_val (f := plan)]

/-- A plan asks leaves of its filter only. -/
theorem mem_leaves_of_mayAsk {l : Leaf} (node : Node) : node.plan.MayAsk l → l ∈ node.leaves := by
  induction node using inductionOn with
  | leaf m =>
    rw [plan_leaf, leaves_leaf]
    rintro (_ | ⟨_, h⟩)
    · exact List.mem_singleton_self l
    · cases h
  | group operator children ih =>
    rw [plan_group, leaves_group]
    intro h
    split at h
    · cases h
    · obtain ⟨plan, hmem, hask⟩ := Plan.mayAsk_untilSettled h
      obtain ⟨child, hchild, rfl⟩ := List.mem_map.mp hmem
      rw [mem_visitOrder] at hchild
      exact List.mem_flatMap.mpr ⟨child, hchild, ih child hchild hask⟩

end Node

/-! ### Running a plan -/

namespace Plan

section

variable {τ : Type} (check : Leaf → Run τ Condition)

/-- Ask the leaves of a plan: its verdict and the conditions in order. -/
def run : Plan → Run τ (Bool × List Condition)
  | done verdict => pure (verdict, [])
  | ask l next => do
    let condition ← check l
    let (verdict, more) ← (next condition.passed).run
    return (verdict, condition :: more)

theorem run_done (verdict : Bool) : (done verdict).run check = pure (verdict, []) := rfl

theorem run_andThen (f : Bool → Plan) : ∀ plan : Plan, (plan.andThen f).run check = (do
    let (verdict, first) ← plan.run check
    let (verdict, second) ← (f verdict).run check
    return (verdict, first ++ second))
  | done verdict => by simp [andThen, run]
  | ask l next => by
    simp only [andThen, run, bind_assoc, pure_bind]
    refine congrArg _ (funext fun condition => ?_)
    rw [run_andThen f (next condition.passed)]
    simp only [bind_assoc, pure_bind, List.cons_append]

end

end Plan

/-- A verdict is the settling one or, if it leaves the group open, the other one. -/
theorem GroupOperator.verdict_of_settled (operator : GroupOperator) (verdict : Bool) :
    (if verdict == operator.decisive then operator.decisive else !operator.decisive) = verdict := by
  cases operator <;> cases verdict <;> rfl

section

variable {τ : Type} {check : Leaf → Run τ Condition}

/-- A pass over a group runs the plans of the children that it does not leave out; its first part
says whether the last verdict settled the group. -/
theorem walkPart_eq_run (operator : GroupOperator) (webhooks : Bool) : ∀ {children : List Node},
    (∀ child ∈ children, walk check child = child.plan.run check) →
    walkPart check operator webhooks children = (do
      let (verdict, conditions) ← (Plan.untilSettled operator
        ((children.filter fun child => child.isWebhook == webhooks).map Node.plan)).run check
      return (verdict == operator.decisive, conditions))
  | [], _ => by
    rw [walkPart, List.filter_nil, List.map_nil, Plan.untilSettled, Plan.run_done, pure_bind]
    cases operator <;> rfl
  | child :: rest, ih => by
    have hrest := walkPart_eq_run operator webhooks
      fun other h => ih other (List.mem_cons_of_mem _ h)
    rw [walkPart]
    by_cases hpart : child.isWebhook = webhooks
    · rw [if_neg (by simpa using hpart), List.filter_cons_of_pos (by simpa using hpart), hrest,
        ih child (List.mem_cons_self ..)]
      simp only [List.map_cons, Plan.untilSettled, Plan.run_andThen, bind_assoc, pure_bind]
      refine congrArg _ (funext fun r => ?_)
      by_cases h : r.1 == operator.decisive
      · simp [h, Plan.run]
      · simp [h]
    · rw [if_pos (by simpa using hpart), List.filter_cons_of_neg (by simpa using hpart), hrest]

/-- To evaluate a filter is to run its plan. -/
theorem walk_eq_run (node : Node) : walk check node = node.plan.run check := by
  induction node using Node.inductionOn with
  | leaf l =>
    rw [walk, Node.plan_leaf]
    rfl
  | group operator children ih =>
    rw [walk, Node.plan_group]
    split
    · rfl
    · rw [walkPart_eq_run operator false ih, walkPart_eq_run operator true ih, Node.visitOrder,
        List.map_append, Plan.untilSettled_append, Plan.run_andThen]
      simp only [bind_assoc, pure_bind, beq_true, beq_false, Node.isWebhook_eq, bne]
      refine congrArg _ (funext fun first => ?_)
      by_cases h : first.1 == operator.decisive
      · simp only [h, if_true, Plan.run_done, pure_bind, List.append_nil]
      · simp only [h, Bool.false_eq_true, if_false, operator.verdict_of_settled]

end

end DeliveryGate
