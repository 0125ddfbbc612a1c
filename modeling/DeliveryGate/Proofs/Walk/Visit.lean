import DeliveryGate.Proofs.Walk.Replay
import Mathlib.Logic.Relation

/-!
# Visited leaves

The evaluation of a list of filters as a system that takes step after step: `Reached` says how far
it has come. The conditions so far determine the leaf to visit next (`Visited`), by replay, and a
filter that failed is recorded before the next one begins. `walkFilters_error_iff` says that an
evaluation fails exactly with the failure of a visited leaf, which is then the last one visited.
-/

namespace DeliveryGate

namespace Plan

/-- After this record a plan goes on as the rest of it. -/
def Follows (plan : Plan) (record : List Condition) (rest : Plan) : Prop :=
  ∀ more, plan.replay (record ++ more) = rest.replay more

theorem follows_nil (plan : Plan) : plan.Follows [] plan := fun _ => rfl

theorem Follows.concat {plan : Plan} {record : List Condition} {l : Leaf} {next : Bool → Plan}
    (h : plan.Follows record (ask l next)) {condition : Condition}
    (hkind : condition.filter = l.kind.name) :
    plan.Follows (record ++ [condition]) (next condition.passed) := by
  intro more
  rw [List.append_assoc, List.singleton_append, h, replay, if_pos hkind]

/-- A plan that awaits a leaf without any record begins with it. -/
theorem eq_ask_of_replay {plan : Plan} {l : Leaf} (h : plan.replay [] = .awaits l) :
    ∃ next, plan = ask l next := by
  cases plan with
  | done verdict => cases h
  | ask m next =>
    cases h
    exact ⟨next, rfl⟩

theorem eq_done_of_replay {plan : Plan} {verdict : Bool} {rest : List Condition}
    (h : plan.replay [] = .done verdict rest) : plan = done verdict := by
  cases plan with
  | done _ => cases h; rfl
  | ask _ _ => cases h

/-- A replay awaits leaves of the plan only. -/
theorem mayAsk_of_replay {l : Leaf} : ∀ {plan : Plan} {record : List Condition},
    plan.replay record = .awaits l → plan.MayAsk l
  | done _, _, h => by cases h
  | ask m next, [], h => by
    cases h
    exact .here
  | ask m next, condition :: rest, h => by
    rw [replay] at h
    split at h
    · exact .later condition.passed (mayAsk_of_replay h)
    · cases h

theorem Follows.replay_eq {node : Node} {record : List Condition} {rest : Plan}
    (h : node.plan.Follows record rest) : node.replay record = rest.replay [] := by
  rw [Node.replay_eq, ← h [], List.append_nil]

end Plan

section

variable {σ : Type} (c : Collaborators σ) (header : String) (ctx : Context) (vars : Variables)
  (filters : List Node) (start : EvaluatorState σ)

/-- How far an evaluation has come: these traces are finished and recorded, and the next filter has
these conditions so far. -/
inductive Reached : List Trace → List Condition → EvaluatorState σ → Prop
  | start : Reached [] [] start
  /-- The leaf that the next filter awaits succeeds. -/
  | answer {finished : List Trace} {conditions : List Condition} {s t : EvaluatorState σ}
      {filter : Node} {l : Leaf} {condition : Condition} :
      Reached finished conditions s → filters[finished.length]? = some filter →
      filter.replay conditions = .awaits l →
      checkLeaf c header ctx vars l s = (.ok condition, t) →
      Reached finished (conditions ++ [condition]) t
  /-- The next filter is evaluated in full and has failed. -/
  | finish {finished : List Trace} {conditions : List Condition} {s : EvaluatorState σ}
      {filter : Node} :
      Reached finished conditions s → filters[finished.length]? = some filter →
      filter.replay conditions = .done false [] →
      Reached (finished ++ [⟨filter, vars, conditions⟩]) []
        (recordAudit c ctx ⟨filter, vars, conditions⟩ false s).2

/-- After these traces, a leaf is visited in this state. -/
def Visited (finished : List Trace) (l : Leaf) (s : EvaluatorState σ) : Prop :=
  ∃ conditions filter, Reached c header ctx vars filters start finished conditions s ∧
    filters[finished.length]? = some filter ∧ filter.replay conditions = .awaits l

variable {c header ctx vars filters start}

/-- Only leaves of the filters are visited. -/
theorem Visited.mem_leaves {finished : List Trace} {l : Leaf} {s : EvaluatorState σ}
    (h : Visited c header ctx vars filters start finished l s) :
    ∃ filter ∈ filters, l ∈ filter.leaves := by
  obtain ⟨conditions, filter, -, hnext, hawaits⟩ := h
  rw [Node.replay_eq] at hawaits
  exact ⟨filter, List.mem_of_getElem? hnext,
    Node.mem_leaves_of_mayAsk filter (Plan.mayAsk_of_replay hawaits)⟩

/-- The finished traces are those of the first filters. -/
theorem Reached.filters_eq {finished : List Trace} {conditions : List Condition}
    {s : EvaluatorState σ} (h : Reached c header ctx vars filters start finished conditions s) :
    finished.map Trace.filter = filters.take finished.length := by
  induction h with
  | start => rfl
  | answer _ _ _ _ ih => exact ih
  | finish _ hnext _ ih =>
    rw [List.map_append, ih, List.length_append, List.length_singleton, List.take_add_one, hnext]
    rfl

/-- The finished filters have failed. -/
theorem Reached.replay_finished {finished : List Trace} {conditions : List Condition}
    {s : EvaluatorState σ} (h : Reached c header ctx vars filters start finished conditions s) :
    ∀ trace ∈ finished, trace.filter.replay trace.conditions = .done false [] := by
  induction h with
  | start => exact fun _ h => nomatch h
  | answer _ _ _ _ ih => exact ih
  | finish _ _ hdone ih =>
    intro trace hmem
    rcases List.mem_append.mp hmem with hmem | hmem
    · exact ih trace hmem
    · obtain rfl := List.mem_singleton.mp hmem
      exact hdone

/-- What holds at first and is kept by leaves and by recording holds wherever the evaluation comes.
-/
theorem Reached.invariant {I : EvaluatorState σ → Prop}
    (hleaf : ∀ l s, I s → I (checkLeaf c header ctx vars l s).2)
    (haudit : ∀ trace passed s, I s → I (recordAudit c ctx trace passed s).2) (hstart : I start)
    {finished : List Trace} {conditions : List Condition} {s : EvaluatorState σ}
    (h : Reached c header ctx vars filters start finished conditions s) : I s := by
  induction h with
  | start => exact hstart
  | @answer _ _ s t _ l _ _ _ _ hcheck ih =>
    have hnext := hleaf l s ih
    rwa [hcheck] at hnext
  | finish _ _ _ ih => exact haudit _ _ _ ih

/-! ### From a failure to the leaf that failed -/

/-- The rest of a plan is run by visiting leaves: it succeeds where its record ends, or one of these
leaves fails. -/
theorem Reached.run {filter : Node} {finished : List Trace}
    (hnext : filters[finished.length]? = some filter) :
    ∀ {rest : Plan} {conditions : List Condition} {s : EvaluatorState σ},
    Reached c header ctx vars filters start finished conditions s →
    filter.plan.Follows conditions rest →
    (∀ verdict more t, rest.run (checkLeaf c header ctx vars) s = (.ok (verdict, more), t) →
      Reached c header ctx vars filters start finished (conditions ++ more) t ∧
        filter.replay (conditions ++ more) = .done verdict []) ∧
    ∀ e t, rest.run (checkLeaf c header ctx vars) s = (.error e, t) →
      ∃ l s', Visited c header ctx vars filters start finished l s' ∧
        checkLeaf c header ctx vars l s' = (.error e, t)
  | .done verdict, conditions, s, hreached, hfollows => by
    constructor
    · intro verdict' more t h
      cases h
      rw [List.append_nil]
      exact ⟨hreached, hfollows.replay_eq⟩
    · intro e t h
      cases h
  | .ask l next, conditions, s, hreached, hfollows => by
    have hawaits : filter.replay conditions = .awaits l := hfollows.replay_eq
    have ih := fun condition s₁ (hcheck : checkLeaf c header ctx vars l s = (.ok condition, s₁)) =>
      Reached.run hnext (hreached.answer hnext hawaits hcheck)
        (hfollows.concat (checkLeaf_filter hcheck))
    constructor
    · intro verdict more t h
      obtain ⟨condition, s₁, hcheck, h⟩ := Run.bind_eq_ok_iff.mp h
      obtain ⟨⟨verdict', more'⟩, s₂, hrun, h⟩ := Run.bind_eq_ok_iff.mp h
      cases h
      rw [← List.singleton_append, ← List.append_assoc]
      exact (ih condition s₁ hcheck).1 _ _ _ hrun
    · intro e t h
      rcases Run.bind_eq_error_iff.mp h with hcheck | ⟨condition, s₁, hcheck, h⟩
      · exact ⟨l, s, ⟨conditions, filter, hreached, hnext, hawaits⟩, hcheck⟩
      · rcases Run.bind_eq_error_iff.mp h with hrun | ⟨_, _, _, h⟩
        · exact (ih condition s₁ hcheck).2 _ _ hrun
        · cases h

/-- The first filter that is left is the next one, and behind it the others are left. -/
theorem next_of_drop {n : Nat} {filter : Node} {rest : List Node}
    (hrest : filters.drop n = filter :: rest) :
    filters[n]? = some filter ∧ filters.drop (n + 1) = rest := by
  constructor
  · rw [← List.head?_drop, hrest, List.head?_cons]
  · rw [← List.tail_drop, hrest, List.tail_cons]

/-- If the filters that are left fail, then one of the leaves visited from here on does. -/
theorem Reached.visited_of_error {e : Failure} {t : EvaluatorState σ} : ∀ {rest : List Node}
    {finished : List Trace} {s : EvaluatorState σ}, filters.drop finished.length = rest →
    Reached c header ctx vars filters start finished [] s →
    walkFilters c header ctx vars rest s = (.error e, t) →
    ∃ finished l s', Visited c header ctx vars filters start finished l s' ∧
      checkLeaf c header ctx vars l s' = (.error e, t)
  | [], _, _, _, _, h => by cases h
  | filter :: rest, finished, s, hrest, hreached, h => by
    obtain ⟨hnext, hdrop⟩ := next_of_drop hrest
    obtain ⟨hok, herror⟩ := hreached.run hnext (Plan.follows_nil filter.plan)
    rw [← walk_eq_run] at hok herror
    rw [walkFilters] at h
    rcases Run.bind_eq_error_iff.mp h with hwalk | ⟨⟨verdict, conditions⟩, s₁, hwalk, h⟩
    · exact ⟨finished, herror e t hwalk⟩
    · obtain ⟨hreached₁, hreplay⟩ := hok _ _ _ hwalk
      dsimp only at h
      rw [Run.bind_of_ok (recordAudit_ok ..)] at h
      cases verdict with
      | true => cases h
      | false =>
        rcases Run.bind_eq_error_iff.mp h with hmore | ⟨_, _, _, h⟩
        · exact visited_of_error (by rw [List.length_append, List.length_singleton, hdrop])
            (hreached₁.finish hnext hreplay) hmore
        · cases h

/-! ### What an evaluation does to the state -/

variable (c header ctx vars filters start) in
/-- What may happen to the state while the filters are evaluated: a leaf that is visited is
answered, or a trace is recorded. -/
inductive Advances : EvaluatorState σ → EvaluatorState σ → Prop
  | answer {finished : List Trace} {l : Leaf} {s : EvaluatorState σ} :
      Visited c header ctx vars filters start finished l s →
      Advances s (checkLeaf c header ctx vars l s).2
  | record {trace : Trace} {passed : Bool} {s : EvaluatorState σ} :
      Advances s (recordAudit c ctx trace passed s).2

theorem Reached.advances_run {filter : Node} {finished : List Trace}
    (hnext : filters[finished.length]? = some filter) :
    ∀ {rest : Plan} {conditions : List Condition} {s : EvaluatorState σ},
    Reached c header ctx vars filters start finished conditions s →
    filter.plan.Follows conditions rest →
    Relation.ReflTransGen (Advances c header ctx vars filters start) s
      (rest.run (checkLeaf c header ctx vars) s).2
  | .done _, _, _, _, _ => .refl
  | .ask l next, conditions, s, hreached, hfollows => by
    have hawaits : filter.replay conditions = .awaits l := hfollows.replay_eq
    have hstep : Advances c header ctx vars filters start s (checkLeaf c header ctx vars l s).2 :=
      .answer ⟨conditions, filter, hreached, hnext, hawaits⟩
    rw [Plan.run]
    rcases hcheck : checkLeaf c header ctx vars l s with ⟨e | condition, t⟩
    · rw [Run.bind_of_error hcheck]
      rw [hcheck] at hstep
      exact .single hstep
    · rw [Run.bind_of_ok hcheck, Run.bind_pure_snd]
      rw [hcheck] at hstep
      exact .head hstep (Reached.advances_run hnext (hreached.answer hnext hawaits hcheck)
        (hfollows.concat (checkLeaf_filter hcheck)))

/-- Whatever becomes of the filters that are left: what they do to the state is done by leaves that
are visited and by traces that are recorded. -/
theorem Reached.advances : ∀ {rest : List Node} {finished : List Trace} {s : EvaluatorState σ},
    filters.drop finished.length = rest →
    Reached c header ctx vars filters start finished [] s →
    Relation.ReflTransGen (Advances c header ctx vars filters start) s
      (walkFilters c header ctx vars rest s).2
  | [], _, _, _, _ => .refl
  | filter :: rest, finished, s, hrest, hreached => by
    obtain ⟨hnext, hdrop⟩ := next_of_drop hrest
    have hrun := hreached.advances_run hnext (Plan.follows_nil filter.plan)
    obtain ⟨hok, -⟩ := hreached.run hnext (Plan.follows_nil filter.plan)
    rw [← walk_eq_run] at hrun hok
    rw [walkFilters]
    rcases hwalk : walk (checkLeaf c header ctx vars) filter s with
      ⟨e | ⟨verdict, conditions⟩, t⟩ <;> rw [hwalk] at hrun
    · rw [Run.bind_of_error hwalk]
      exact hrun
    · obtain ⟨hreached₁, hreplay⟩ := hok _ _ _ hwalk
      rw [Run.bind_of_ok hwalk]
      dsimp only
      rw [Run.bind_of_ok (recordAudit_ok ..)]
      have hrecord : Advances c header ctx vars filters start t
          (recordAudit c ctx ⟨filter, vars, conditions⟩ verdict t).2 := .record
      cases verdict with
      | true => exact hrun.tail hrecord
      | false =>
        rw [if_neg Bool.false_ne_true, Run.bind_pure_snd]
        exact (hrun.tail hrecord).trans (Reached.advances
          (by rw [List.length_append, List.length_singleton, hdrop])
          (hreached₁.finish hnext hreplay))

/-! ### From a leaf that failed to the failure -/

variable (c header ctx vars) in
/-- What is left to do in the middle of a filter: the rest of its plan, and the filters after it. -/
def resume (filter : Node) (conditions : List Condition) (plan : Plan) (rest : List Node) :
    Run (EvaluatorState σ) (Bool × List Trace) := do
  let (passed, more) ← plan.run (checkLeaf c header ctx vars)
  let trace : Trace := ⟨filter, vars, conditions ++ more⟩
  recordAudit c ctx trace passed
  if passed then return (true, [trace])
  let (passed, traces) ← walkFilters c header ctx vars rest
  return (passed, trace :: traces)

theorem walkFilters_drop {n : Nat} {filter : Node} (hnext : filters[n]? = some filter) :
    walkFilters c header ctx vars (filters.drop n)
      = resume c header ctx vars filter [] filter.plan (filters.drop (n + 1)) := by
  obtain ⟨hlt, rfl⟩ := List.getElem?_eq_some_iff.mp hnext
  rw [List.drop_eq_getElem_cons hlt, walkFilters, walk_eq_run]
  rfl

theorem resume_ask {filter : Node} {conditions : List Condition} {l : Leaf} {next : Bool → Plan}
    {rest : List Node} {condition : Condition} {s t : EvaluatorState σ}
    (hcheck : checkLeaf c header ctx vars l s = (.ok condition, t)) :
    resume c header ctx vars filter conditions (.ask l next) rest s
      = resume c header ctx vars filter (conditions ++ [condition]) (next condition.passed) rest
        t := by
  simp only [resume, Plan.run, bind_assoc, pure_bind]
  rw [Run.bind_of_ok hcheck]
  simp only [List.append_assoc, List.singleton_append]

theorem resume_ask_of_error {filter : Node} {conditions : List Condition} {l : Leaf}
    {next : Bool → Plan} {rest : List Node} {e : Failure} {s t : EvaluatorState σ}
    (hcheck : checkLeaf c header ctx vars l s = (.error e, t)) :
    resume c header ctx vars filter conditions (.ask l next) rest s = (.error e, t) := by
  simp only [resume, Plan.run, bind_assoc]
  rw [Run.bind_of_error hcheck]

theorem resume_done_of_error {filter : Node} {conditions : List Condition} {rest : List Node}
    {e : Failure} {s t : EvaluatorState σ}
    (hrest : walkFilters c header ctx vars rest
      (recordAudit c ctx ⟨filter, vars, conditions⟩ false s).2 = (.error e, t)) :
    resume c header ctx vars filter conditions (.done false) rest s = (.error e, t) := by
  simp only [resume, Plan.run_done, pure_bind, List.append_nil]
  rw [Run.bind_of_ok (recordAudit_ok ..), if_neg Bool.false_ne_true, Run.bind_of_error hrest]

/-- A failure of what is left to do is one of the whole. -/
theorem Reached.resume_error {finished : List Trace} {conditions : List Condition}
    {s : EvaluatorState σ} (h : Reached c header ctx vars filters start finished conditions s)
    {filter : Node} (hnext : filters[finished.length]? = some filter) :
    ∃ plan, filter.plan.Follows conditions plan ∧ ∀ e t,
      resume c header ctx vars filter conditions plan (filters.drop (finished.length + 1)) s
        = (.error e, t) → walkFilters c header ctx vars filters start = (.error e, t) := by
  -- the step that led here is undone: the rest of the plan before it begins with just this step
  induction h generalizing filter with
  | start =>
    refine ⟨filter.plan, filter.plan.follows_nil, fun e t h => ?_⟩
    rwa [← walkFilters_drop hnext] at h
  | answer _ hfilter hawaits hcheck ih =>
    obtain ⟨plan, hfollows, herror⟩ := ih hnext
    obtain rfl := Option.some.inj (hfilter.symm.trans hnext)
    obtain ⟨next, rfl⟩ := Plan.eq_ask_of_replay (hfollows.replay_eq.symm.trans hawaits)
    refine ⟨_, hfollows.concat (checkLeaf_filter hcheck), fun e t h => ?_⟩
    rw [← resume_ask hcheck] at h
    exact herror e t h
  | finish _ hfilter hdone ih =>
    obtain ⟨plan, hfollows, herror⟩ := ih hfilter
    obtain rfl := Plan.eq_done_of_replay (hfollows.replay_eq.symm.trans hdone)
    refine ⟨filter.plan, filter.plan.follows_nil, fun e t h => herror e t (resume_done_of_error ?_)⟩
    rw [List.length_append, List.length_singleton] at hnext h
    rwa [← walkFilters_drop hnext] at h

/-- The filters fail exactly with the failure of a leaf that is visited. -/
theorem walkFilters_error_iff {e : Failure} {t : EvaluatorState σ} :
    walkFilters c header ctx vars filters start = (.error e, t) ↔
      ∃ finished l s, Visited c header ctx vars filters start finished l s ∧
        checkLeaf c header ctx vars l s = (.error e, t) := by
  constructor
  · exact Reached.start.visited_of_error rfl
  · rintro ⟨finished, l, s, ⟨conditions, filter, hreached, hnext, hawaits⟩, hcheck⟩
    obtain ⟨plan, hfollows, herror⟩ := hreached.resume_error hnext
    obtain ⟨next, rfl⟩ := Plan.eq_ask_of_replay (hfollows.replay_eq.symm.trans hawaits)
    exact herror e t (resume_ask_of_error hcheck)

end

end DeliveryGate
