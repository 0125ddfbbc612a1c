import DeliveryGate.Proofs.Walk.Replay

/-!
# Dialogues

What an evaluation asks and what it hears. The answers of an outcome are the leaves that were
visited, each with its condition (`Outcome.answers`): they can be told from the traces, because a
plan goes on by verdicts only. `decideStep_dialogue` says that a successful evaluation is a dialogue
with just these answers, in which every leaf is asked in the state that the ones before it left and
traces are recorded in between. What one answer does to the state adds up over a dialogue
(`Dialogue.invariant`, `Dialogue.count`).
-/

namespace DeliveryGate

/-! ### Answers -/

namespace Plan

/-- The leaves that a plan asks when it gets these conditions, each with its condition. -/
def answers : Plan → List Condition → List (Leaf × Condition)
  | done _, _ => []
  | ask _ _, [] => []
  | ask l next, condition :: rest => (l, condition) :: (next condition.passed).answers rest

end Plan

/-- The leaves that were visited for a trace, each with its condition. -/
def Trace.answers (trace : Trace) : List (Leaf × Condition) :=
  trace.filter.plan.answers trace.conditions

/-- The leaves that were visited for an outcome, each with its condition. -/
def Outcome.answers (outcome : Outcome) : List (Leaf × Condition) :=
  outcome.traces.flatMap Trace.answers

section

variable {σ : Type} (c : Collaborators σ) (header : String) (ctx : Context) (vars : Variables)

/-- Leaves that were answered one after the other, where traces may have been recorded in between.
-/
inductive Dialogue (start : EvaluatorState σ) :
    List (Leaf × Condition) → EvaluatorState σ → Prop
  | refl : Dialogue start [] start
  | answer {given : List (Leaf × Condition)} {l : Leaf} {condition : Condition}
      {s t : EvaluatorState σ} : Dialogue start given s →
      checkLeaf c header ctx vars l s = (.ok condition, t) →
      Dialogue start (given ++ [(l, condition)]) t
  | record {given : List (Leaf × Condition)} {s : EvaluatorState σ} (trace : Trace)
      (passed : Bool) : Dialogue start given s →
      Dialogue start given (recordAudit c ctx trace passed s).2

variable {c header ctx vars} {start s t : EvaluatorState σ} {given : List (Leaf × Condition)}

/-! ### An evaluation is a dialogue -/

/-- A plan that succeeds goes on with the dialogue, and all of its conditions are answers. -/
theorem Dialogue.run : ∀ {plan : Plan} {given : List (Leaf × Condition)} {s t : EvaluatorState σ}
    {verdict : Bool} {conditions : List Condition}, Dialogue c header ctx vars start given s →
    plan.run (checkLeaf c header ctx vars) s = (.ok (verdict, conditions), t) →
    (plan.answers conditions).map Prod.snd = conditions ∧
      Dialogue c header ctx vars start (given ++ plan.answers conditions) t
  | .done _, given, s, t, _, _, hgiven, h => by
    cases h
    rw [Plan.answers, List.append_nil]
    exact ⟨rfl, hgiven⟩
  | .ask l next, given, s, t, verdict, conditions, hgiven, h => by
    obtain ⟨condition, s₁, hcheck, h⟩ := Run.bind_eq_ok_iff.mp h
    obtain ⟨⟨v, more⟩, s₂, hrun, h⟩ := Run.bind_eq_ok_iff.mp h
    cases h
    obtain ⟨hmore, hdialogue⟩ := (hgiven.answer hcheck).run hrun
    rw [List.append_assoc] at hdialogue
    exact ⟨congrArg (condition :: ·) hmore, hdialogue⟩

theorem Dialogue.walkFilters : ∀ {filters : List Node} {given : List (Leaf × Condition)}
    {s t : EvaluatorState σ} {passed : Bool} {traces : List Trace},
    Dialogue c header ctx vars start given s →
    walkFilters c header ctx vars filters s = (.ok (passed, traces), t) →
    (traces.flatMap Trace.answers).map Prod.snd = traces.flatMap Trace.conditions ∧
      Dialogue c header ctx vars start (given ++ traces.flatMap Trace.answers) t
  | [], given, s, t, _, _, hgiven, h => by
    cases h
    rw [List.flatMap_nil, List.append_nil]
    exact ⟨rfl, hgiven⟩
  | filter :: rest, given, s, t, passed, traces, hgiven, h => by
    rw [DeliveryGate.walkFilters] at h
    obtain ⟨⟨verdict, conditions⟩, s₁, hwalk, h⟩ := Run.bind_eq_ok_iff.mp h
    rw [walk_eq_run] at hwalk
    obtain ⟨hconditions, hwalked⟩ := hgiven.run hwalk
    dsimp only at h
    rw [Run.bind_of_ok (recordAudit_ok ..)] at h
    have hrecorded := hwalked.record ⟨filter, vars, conditions⟩ verdict
    cases verdict with
    | true =>
      cases h
      rw [List.flatMap_singleton, List.flatMap_singleton]
      exact ⟨hconditions, hrecorded⟩
    | false =>
      obtain ⟨⟨passed', traces'⟩, s₃, hrest, h⟩ := Run.bind_eq_ok_iff.mp h
      cases h
      obtain ⟨hmore, hdialogue⟩ := hrecorded.walkFilters hrest
      rw [List.append_assoc] at hdialogue
      rw [List.flatMap_cons, List.flatMap_cons, List.map_append, hmore]
      exact ⟨congrArg (· ++ _) hconditions, hdialogue⟩

/-- A successful evaluation looks its variables up and then asks its leaves: the answers of its
outcome, of which each has left a condition. -/
theorem decideStep_dialogue {filters : List Node} {start stop : EvaluatorState σ}
    {outcome : Outcome} (hne : filters ≠ [])
    (h : decideStep c header filters ctx start = (.ok outcome, stop)) :
    outcome.answers.map Prod.snd = outcome.conditions ∧
      ∃ begun, variablesOf c ctx start = (.ok outcome.vars, begun) ∧
        Dialogue c header ctx outcome.vars begun outcome.answers stop := by
  rw [decideStep, if_neg (by simpa using hne)] at h
  obtain ⟨vars, begun, hvars, h⟩ := Run.bind_eq_ok_iff.mp h
  obtain ⟨⟨passed, traces⟩, s₂, hwalk, h⟩ := Run.bind_eq_ok_iff.mp h
  cases h
  obtain ⟨hconditions, hdialogue⟩ := Dialogue.refl.walkFilters hwalk
  exact ⟨hconditions, begun, hvars, hdialogue⟩

/-! ### What adds up over a dialogue -/

/-- What holds at first and is kept by answers and by recording holds at the end, and what it makes
true of one answer is true of all. -/
theorem Dialogue.invariant (I : EvaluatorState σ → Prop) (Q : Leaf → Condition → Prop)
    (hanswer : ∀ l condition s t, I s → checkLeaf c header ctx vars l s = (.ok condition, t) →
      I t ∧ Q l condition)
    (hrecord : ∀ trace passed s, I s → I (recordAudit c ctx trace passed s).2) (hstart : I start)
    (h : Dialogue c header ctx vars start given s) :
    I s ∧ ∀ answer ∈ given, Q answer.1 answer.2 := by
  induction h with
  | refl => exact ⟨hstart, fun _ h => nomatch h⟩
  | answer _ hcheck ih =>
    obtain ⟨hnext, hnew⟩ := hanswer _ _ _ _ ih.1 hcheck
    refine ⟨hnext, fun answer hmem => ?_⟩
    rcases List.mem_append.mp hmem with hold | hlast
    · exact ih.2 answer hold
    · obtain rfl := List.mem_singleton.mp hlast
      exact hnew
  | record trace passed _ ih => exact ⟨hrecord trace passed _ ih.1, ih.2⟩

/-- What grows by one with each answer of some kind, and else with nothing, grows by their number.
-/
theorem Dialogue.count (I : EvaluatorState σ → Prop) (measure : EvaluatorState σ → Nat)
    (counts : Leaf → Bool)
    (hanswer : ∀ l condition s t, I s → checkLeaf c header ctx vars l s = (.ok condition, t) →
      I t ∧ measure t = measure s + if counts l then 1 else 0)
    (hrecord : ∀ trace passed s, I s → I (recordAudit c ctx trace passed s).2 ∧
      measure (recordAudit c ctx trace passed s).2 = measure s) (hstart : I start)
    (h : Dialogue c header ctx vars start given s) :
    I s ∧ measure s = measure start + given.countP fun answer => counts answer.1 := by
  induction h with
  | refl => exact ⟨hstart, rfl⟩
  | answer _ hcheck ih =>
    obtain ⟨hnext, hmeasure⟩ := hanswer _ _ _ _ ih.1 hcheck
    refine ⟨hnext, ?_⟩
    rw [hmeasure, ih.2, List.countP_append, List.countP_singleton, Nat.add_assoc]
  | record trace passed _ ih =>
    obtain ⟨hnext, hmeasure⟩ := hrecord trace passed _ ih.1
    exact ⟨hnext, hmeasure.trans ih.2⟩

/-- The condition of an answer names the kind of its leaf. -/
theorem Dialogue.filter_eq (h : Dialogue c header ctx vars start given s) :
    ∀ answer ∈ given, answer.2.filter = answer.1.kind.name :=
  (h.invariant (fun _ => True) (fun l condition => condition.filter = l.kind.name)
    (fun _ _ _ _ _ hcheck => ⟨trivial, checkLeaf_filter hcheck⟩) (fun _ _ _ _ => trivial)
    trivial).2

end

end DeliveryGate
