import DeliveryGate.Proofs.Evaluation.Constant
import DeliveryGate.Proofs.Evaluation.Recorder

/-!
# Webhooks that are put off

A group visits its webhook children last, so that they are left alone when another child settles the
group. Which children are put off is told from each child alone, not from what it holds: a group of
webhooks is visited where it stands. `settledGroup_requests_iff` says when a webhook is called in
spite of a child that holds no webhooks and settles the group: exactly if a group with webhooks
stands before that child, is reached, and itself calls one.
-/

namespace DeliveryGate

namespace Node

/-- No leaf of the filter is a webhook, at any depth. -/
def WebhookFree (node : Node) : Prop := ∀ l ∈ node.leaves, l.isWebhook = false

instance (node : Node) : Decidable node.WebhookFree :=
  inferInstanceAs (Decidable (∀ l ∈ node.leaves, l.isWebhook = false))

theorem WebhookFree.isWebhook_eq_false {node : Node} (h : node.WebhookFree) :
    node.isWebhook = false := by
  cases node with
  | leaf l => exact h l (by simp)
  | group operator children => rfl

end Node

section

variable {τ : Type} {check : Leaf → Run τ Condition} {operator : GroupOperator} {child : Node}
  {rest : List Node}

theorem walkPart_of_webhook (hchild : child.isWebhook = true) :
    walkPart check operator false (child :: rest) = walkPart check operator false rest := by
  rw [walkPart, if_pos (by simp [hchild])]

theorem walkPart_of_settled (hchild : child.isWebhook = false) {conditions : List Condition}
    {s t : τ} (hwalk : walk check child s = (.ok (operator.decisive, conditions), t)) :
    walkPart check operator false (child :: rest) s = (.ok (true, conditions), t) := by
  rw [walkPart, if_neg (by simp [hchild]), Run.bind_of_ok hwalk]
  dsimp only
  rw [if_pos (beq_self_eq_true _), Run.pure_apply]

theorem walkPart_of_open (hchild : child.isWebhook = false) {verdict : Bool}
    {conditions : List Condition} {s t : τ}
    (hwalk : walk check child s = (.ok (verdict, conditions), t))
    (hopen : verdict ≠ operator.decisive) :
    walkPart check operator false (child :: rest) s = (do
      let (decided, more) ← walkPart check operator false rest
      return (decided, conditions ++ more)) t := by
  rw [walkPart, if_neg (by simp [hchild]), Run.bind_of_ok hwalk]
  dsimp only
  rw [if_neg (by simpa using hopen)]

/-- The first child fails, settles the group, or leaves it to the other children. -/
theorem walkPart_cons (hchild : child.isWebhook = false) (rest : List Node) (s : τ) :
    (∃ e t, walk check child s = (.error e, t) ∧
      walkPart check operator false (child :: rest) s = (.error e, t)) ∨
    (∃ conditions t, walk check child s = (.ok (operator.decisive, conditions), t) ∧
      walkPart check operator false (child :: rest) s = (.ok (true, conditions), t)) ∨
    ∃ verdict conditions t, walk check child s = (.ok (verdict, conditions), t) ∧
      verdict ≠ operator.decisive ∧ walkPart check operator false (child :: rest) s = (do
        let (decided, more) ← walkPart check operator false rest
        return (decided, conditions ++ more)) t := by
  rcases hwalk : walk check child s with ⟨e | ⟨verdict, conditions⟩, t⟩
  · refine Or.inl ⟨e, t, rfl, ?_⟩
    rw [walkPart, if_neg (by simp [hchild]), Run.bind_of_error hwalk]
  · by_cases hopen : verdict = operator.decisive
    · subst hopen
      exact Or.inr (Or.inl ⟨conditions, t, rfl, walkPart_of_settled hchild hwalk⟩)
    · exact Or.inr (Or.inr ⟨verdict, conditions, t, rfl, hopen,
        walkPart_of_open hchild hwalk hopen⟩)

variable (check operator) in
/-- These children are visited without settling the group, from one state to the other. -/
def LeavesOpen (children : List Node) (s t : τ) : Prop :=
  ∃ conditions, walkPart check operator false children s = (.ok (false, conditions), t)

theorem leavesOpen_nil {s t : τ} : LeavesOpen check operator [] s t ↔ s = t := by
  constructor
  · rintro ⟨_, h⟩
    cases h
    rfl
  · rintro rfl
    exact ⟨[], rfl⟩

theorem leavesOpen_of_webhook (hchild : child.isWebhook = true) {s t : τ} :
    LeavesOpen check operator (child :: rest) s t ↔ LeavesOpen check operator rest s t := by
  rw [LeavesOpen, walkPart_of_webhook hchild, LeavesOpen]

theorem leavesOpen_cons (hchild : child.isWebhook = false) {s t : τ} :
    LeavesOpen check operator (child :: rest) s t ↔ ∃ verdict conditions s',
      walk check child s = (.ok (verdict, conditions), s') ∧ verdict ≠ operator.decisive ∧
        LeavesOpen check operator rest s' t := by
  constructor
  · rintro ⟨conditions, h⟩
    rcases walkPart_cons hchild rest s with
      ⟨e, s', -, hpart⟩ | ⟨first, s', -, hpart⟩ | ⟨verdict, first, s', hwalk, hopen, hpart⟩
    · cases hpart.symm.trans h
    · cases hpart.symm.trans h
    · obtain ⟨⟨decided, more⟩, t', hrest, h⟩ := Run.bind_eq_ok_iff.mp (hpart.symm.trans h)
      cases h
      exact ⟨verdict, first, s', hwalk, hopen, more, hrest⟩
  · rintro ⟨verdict, first, s', hwalk, hopen, more, hrest⟩
    refine ⟨first ++ more, ?_⟩
    rw [walkPart_of_open hchild hwalk hopen, Run.bind_of_ok hrest]
    rfl

end

section

variable {σ : Type} {c : Collaborators σ} {header : String} {ctx : Context} {vars : Variables}
  {operator : GroupOperator} {child : Node} {behind : List Node}

/-- A child that settles the group when it is reached leaves nothing to the second pass. -/
theorem walkPart_settles {τ : Type} {check : Leaf → Run τ Condition}
    (hlocal : child.isWebhook = false) : ∀ {ahead : List Node} {start : τ},
    (∀ s, LeavesOpen check operator ahead start s →
      ∃ conditions t, walk check child s = (.ok (operator.decisive, conditions), t)) →
    ∀ {decided conditions t}, walkPart check operator false (ahead ++ child :: behind) start
      = (.ok (decided, conditions), t) → decided = true
  | [], start, hsettles, decided, conditions, t, h => by
    obtain ⟨_, _, hwalk⟩ := hsettles start (leavesOpen_nil.mpr rfl)
    rw [List.nil_append, walkPart_of_settled hlocal hwalk] at h
    cases h
    rfl
  | other :: ahead, start, hsettles, decided, conditions, t, h => by
    rw [List.cons_append] at h
    cases hother : other.isWebhook with
    | true =>
      rw [walkPart_of_webhook hother] at h
      exact walkPart_settles hlocal
        (fun s hs => hsettles s ((leavesOpen_of_webhook hother).mpr hs)) h
    | false =>
      rcases walkPart_cons hother (ahead ++ child :: behind) start with
        ⟨e, s', -, hpart⟩ | ⟨first, s', -, hpart⟩ | ⟨verdict, first, s', hwalk, hopen, hpart⟩
      · cases hpart.symm.trans h
      · cases hpart.symm.trans h
        rfl
      · obtain ⟨⟨decided', more⟩, t', hrest, h⟩ := Run.bind_eq_ok_iff.mp (hpart.symm.trans h)
        cases h
        exact walkPart_settles hlocal (fun s hs => hsettles s
          ((leavesOpen_cons hother).mpr ⟨verdict, first, s', hwalk, hopen, hs⟩)) hrest

variable (c header ctx vars operator) in
/-- A group that holds webhooks is reached among these children, and calls one. -/
def CallsAhead (ahead : List Node) (start : EvaluatorState (σ × List Call)) : Prop :=
  ∃ before inner after s, ahead = before ++ inner :: after ∧
    inner.isWebhook = false ∧ ¬ inner.WebhookFree ∧
    LeavesOpen (checkLeaf c.recorded header ctx vars) operator before start s ∧
    (walk (checkLeaf c.recorded header ctx vars) inner s).2.requests ≠ s.requests

theorem not_callsAhead_nil {start : EvaluatorState (σ × List Call)} :
    ¬ CallsAhead c header ctx vars operator [] start := by
  rintro ⟨before, inner, after, -, h, -⟩
  cases before <;> cases h

theorem callsAhead_of_webhook (hchild : child.isWebhook = true) {rest : List Node}
    {start : EvaluatorState (σ × List Call)} :
    CallsAhead c header ctx vars operator (child :: rest) start ↔
      CallsAhead c header ctx vars operator rest start := by
  constructor
  · rintro ⟨before, inner, after, s, hsplit, hinner, hfree, hopen, hcalls⟩
    rcases List.cons_eq_append_iff.mp hsplit with ⟨-, hhead⟩ | ⟨before, rfl, hrest⟩
    · cases hhead
      rw [hchild] at hinner
      cases hinner
    · rw [leavesOpen_of_webhook hchild] at hopen
      exact ⟨before, inner, after, s, hrest, hinner, hfree, hopen, hcalls⟩
  · rintro ⟨before, inner, after, s, rfl, hinner, hfree, hopen, hcalls⟩
    exact ⟨child :: before, inner, after, s, rfl, hinner, hfree,
      (leavesOpen_of_webhook hchild).mpr hopen, hcalls⟩

theorem callsAhead_cons (hchild : child.isWebhook = false) {rest : List Node}
    {start : EvaluatorState (σ × List Call)} :
    CallsAhead c header ctx vars operator (child :: rest) start ↔
      (walk (checkLeaf c.recorded header ctx vars) child start).2.requests ≠ start.requests ∨
      ∃ verdict conditions s, walk (checkLeaf c.recorded header ctx vars) child start
          = (.ok (verdict, conditions), s) ∧ verdict ≠ operator.decisive ∧
        CallsAhead c header ctx vars operator rest s := by
  constructor
  · rintro ⟨before, inner, after, s, hsplit, hinner, hfree, hopen, hcalls⟩
    rcases List.cons_eq_append_iff.mp hsplit with ⟨rfl, hhead⟩ | ⟨before, rfl, hrest⟩
    · cases hhead
      obtain rfl := leavesOpen_nil.mp hopen
      exact Or.inl hcalls
    · obtain ⟨verdict, conditions, s', hwalk, hverdict, hopen⟩ := (leavesOpen_cons hchild).mp hopen
      exact Or.inr ⟨verdict, conditions, s', hwalk, hverdict,
        before, inner, after, s, hrest, hinner, hfree, hopen, hcalls⟩
  · rintro (hcalls | ⟨verdict, conditions, s', hwalk, hverdict,
      before, inner, after, s, rfl, hinner, hfree, hopen, hcalls⟩)
    · exact ⟨[], child, rest, start, rfl, hchild,
        fun hfree => hcalls (walk_requests_of_local hfree _), leavesOpen_nil.mpr rfl, hcalls⟩
    · exact ⟨child :: before, inner, after, s, rfl, hinner, hfree,
        (leavesOpen_cons hchild).mpr ⟨verdict, conditions, s', hwalk, hverdict, hopen⟩, hcalls⟩

/-- Up to a child that holds no webhooks and settles the group when it is reached, only a group that
holds webhooks calls one. -/
theorem walkPart_requests_iff (hfree : child.WebhookFree) : ∀ {ahead : List Node}
    {start : EvaluatorState (σ × List Call)},
    (∀ s, LeavesOpen (checkLeaf c.recorded header ctx vars) operator ahead start s →
      ∃ conditions t, walk (checkLeaf c.recorded header ctx vars) child s
        = (.ok (operator.decisive, conditions), t)) →
    ((walkPart (checkLeaf c.recorded header ctx vars) operator false (ahead ++ child :: behind)
        start).2.requests ≠ start.requests ↔ CallsAhead c header ctx vars operator ahead start)
  | [], start, hsettles => by
    obtain ⟨conditions, t, hwalk⟩ := hsettles start (leavesOpen_nil.mpr rfl)
    have hsame : (walk (checkLeaf c.recorded header ctx vars) child start).2.requests
        = start.requests := walk_requests_of_local hfree start
    rw [List.nil_append, walkPart_of_settled hfree.isWebhook_eq_false hwalk]
    rw [hwalk] at hsame
    exact iff_of_false (not_not.mpr hsame) not_callsAhead_nil
  | other :: ahead, start, hsettles => by
    rw [List.cons_append]
    cases hother : other.isWebhook with
    | true =>
      rw [walkPart_of_webhook hother, callsAhead_of_webhook hother]
      exact walkPart_requests_iff hfree
        fun s hs => hsettles s ((leavesOpen_of_webhook hother).mpr hs)
    | false =>
      rw [callsAhead_cons hother]
      have hbefore : start.requests <+:
          (walk (checkLeaf c.recorded header ctx vars) other start).2.requests :=
        walk_requests_prefix other start
      rcases walkPart_cons hother (ahead ++ child :: behind) start with
        ⟨e, s', hwalk, hpart⟩ | ⟨first, s', hwalk, hpart⟩ |
        ⟨verdict, first, s', hwalk, hopen, hpart⟩
      · rw [hpart, hwalk]
        simp
      · rw [hpart, hwalk]
        simp
      -- the group is left open: either the child has called already, or it depends on the others
      rw [hwalk] at hbefore
      rw [hpart, Run.bind_pure_snd, hwalk]
      by_cases hcalls : s'.requests = start.requests
      · have ih := walkPart_requests_iff hfree fun s hs => hsettles s
          ((leavesOpen_cons hother).mpr ⟨verdict, first, s', hwalk, hopen, hs⟩)
        rw [hcalls] at ih
        rw [ih]
        simp [hcalls, hopen]
      · have hafter : s'.requests <+: (walkPart (checkLeaf c.recorded header ctx vars) operator
            false (ahead ++ child :: behind) s').2.requests := walkPart_requests_prefix ..
        refine iff_of_true (fun hsame => hcalls ?_) (Or.inl hcalls)
        rw [hsame] at hafter
        exact (hbefore.eq_of_length_le hafter.length_le).symm

variable (behind) in
/-- A group with a child that holds no webhooks and settles the group when it is reached: it calls a
webhook exactly if a group that holds webhooks stands before this child, is reached, and calls one.
-/
theorem settledGroup_requests_iff (hfree : child.WebhookFree) {ahead : List Node}
    {start : EvaluatorState (σ × List Call)}
    (hsettles : ∀ s, LeavesOpen (checkLeaf c.recorded header ctx vars) operator ahead start s →
      ∃ conditions t, walk (checkLeaf c.recorded header ctx vars) child s
        = (.ok (operator.decisive, conditions), t)) :
    (walk (checkLeaf c.recorded header ctx vars) (.group operator (ahead ++ child :: behind))
      start).2.requests ≠ start.requests ↔ CallsAhead c header ctx vars operator ahead start := by
  have hsome : ¬ (ahead ++ child :: behind).isEmpty = true := by simp
  rw [← walkPart_requests_iff hfree hsettles, walk, if_neg hsome]
  rcases hpart : walkPart (checkLeaf c.recorded header ctx vars) operator false
    (ahead ++ child :: behind) start with ⟨e | ⟨decided, conditions⟩, t⟩
  · rw [Run.bind_of_error hpart]
  · obtain rfl := walkPart_settles hfree.isWebhook_eq_false hsettles hpart
    rw [Run.bind_of_ok hpart]
    rfl

/-- A nested webhook is called although the payload settles the group. -/
theorem settledGroup_requests_iff_nested :
    (Node.asksPlan "free").WebhookFree ∧
      CallsAhead World.collaborators "signature" Context.sample Context.sample.baseVariables .and
        [.group .and [.asksWebhook "https://a.test" "yes"]]
        EvaluatorState.sample.recording := by
  have hfree : (Node.asksPlan "free").WebhookFree := by
    simp [Node.WebhookFree, Node.asksPlan, Leaf.isWebhook]
  refine ⟨hfree, (settledGroup_requests_iff [] hfree fun s _ => ⟨_, s, rfl⟩).mp ?_⟩
  exact fun hsame => Nat.one_ne_zero (congrArg List.length hsame)

/-- The second child of the group holds no webhooks and settles it, but the webhook in the group
before it is called. -/
theorem nestedWebhook_called :
    (Node.asksPlan "free").WebhookFree ∧
      (walk (checkLeaf World.collaborators.recorded "signature" Context.sample
          Context.sample.baseVariables) (.asksPlan "free")
        EvaluatorState.sample.recording).1.map Prod.fst = .ok false ∧
      (walk (checkLeaf World.collaborators.recorded "signature" Context.sample
          Context.sample.baseVariables)
        (.group .and [.group .and [.asksWebhook "https://a.test" "yes"], .asksPlan "free"])
        EvaluatorState.sample.recording).2.requests.length = 1 := by
  refine ⟨?_, rfl, rfl⟩
  simp [Node.WebhookFree, Node.asksPlan, Leaf.isWebhook]

end

end DeliveryGate
