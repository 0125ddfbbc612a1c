import DeliveryGate.Proofs.Evaluation.Recorder
import DeliveryGate.Proofs.Walk.Replay
import DeliveryGate.Proofs.Wire.Trace
import Mathlib.Data.List.Forall2

/-!
# The audit trail

For a job, a successful evaluation hands the audit trail one entry for each trace, in their order.
The text of an entry is its trace: where contexts and subscribers come from JSON, the trace can be
read back from it. Whether an entry is kept makes no difference to the evaluation. All of this is
`decideStep_audited`.
-/

namespace DeliveryGate

variable {σ : Type}

/-! ### Traces and their verdicts -/

namespace Trace

/-- Traces with the verdicts of their filters: all but the last have failed, and the last one has
decided. -/
def verdicts (passed : Bool) : List Trace → List (Trace × Bool)
  | [] => []
  | [last] => [(last, passed)]
  | trace :: rest => (trace, false) :: verdicts passed rest

theorem verdicts_cons {rest : List Trace} (h : rest ≠ []) (passed : Bool) (trace : Trace) :
    verdicts passed (trace :: rest) = (trace, false) :: verdicts passed rest := by
  cases rest with
  | nil => exact absurd rfl h
  | cons _ _ => rfl

theorem map_fst_verdicts (passed : Bool) :
    ∀ traces : List Trace, (verdicts passed traces).map Prod.fst = traces
  | [] | [_] => rfl
  | trace :: other :: rest => congrArg (trace :: ·) (map_fst_verdicts passed (other :: rest))

end Trace

section

variable {c : Collaborators σ} {header : String} {ctx : Context} {vars : Variables}

/-- To evaluate a filter leaves no entry. -/
theorem walk_entries (filter : Node) (s : EvaluatorState (σ × List Call)) :
    (walk (checkLeaf c.recorded header ctx vars) filter s).2.entries = s.entries :=
  view_eq_of_related (fun _ => walk_related fun l _ =>
    checkLeaf_related (webhooks_keep fun _ => filterMap_concat_unseen) l) s

theorem walkFilters_entries {job : CurrentJob} (hjob : ctx.job = some job) :
    ∀ {filters : List Node} {s t : EvaluatorState (σ × List Call)} {passed : Bool}
      {traces : List Trace},
    walkFilters c.recorded header ctx vars filters s = (.ok (passed, traces), t) →
    ∃ added, t.entries = s.entries ++ added ∧
      List.Forall₂ (fun finished entry => entry.Records ctx job finished.1 finished.2)
        (Trace.verdicts passed traces) added
  | [], s, t, _, _, h => by
    cases h
    exact ⟨[], (List.append_nil _).symm, .nil⟩
  | filter :: rest, s, t, passed, traces, h => by
    rw [walkFilters] at h
    obtain ⟨⟨verdict, conditions⟩, s₁, hwalk, h⟩ := Run.bind_eq_ok_iff.mp h
    have hwalked : (walk (checkLeaf c.recorded header ctx vars) filter s).2.entries = s.entries :=
      walk_entries filter s
    rw [hwalk] at hwalked
    dsimp only at h hwalked
    rw [Run.bind_of_ok (recordAudit_ok ..)] at h
    obtain ⟨entry, hrecords, hentry⟩ :=
      recordAudit_entries (c := c) hjob ⟨filter, vars, conditions⟩ verdict s₁
    rw [hwalked] at hentry
    cases verdict with
    | true =>
      cases h
      exact ⟨[entry], hentry, .cons hrecords .nil⟩
    | false =>
      obtain ⟨⟨passed', traces'⟩, s₂, hrest, h⟩ := Run.bind_eq_ok_iff.mp h
      cases h
      cases rest with
      | nil =>
        cases hrest
        exact ⟨[entry], hentry, .cons hrecords .nil⟩
      | cons other others =>
        obtain ⟨added, hadded, hall⟩ := walkFilters_entries hjob hrest
        obtain ⟨-, -, earlier, last, htraces, -⟩ :=
          walkFilters_replay (List.cons_ne_nil other others) hrest
        refine ⟨entry :: added, ?_, ?_⟩
        · rw [hadded, hentry, List.append_assoc, List.singleton_append]
        · rw [Trace.verdicts_cons (by simp [htraces])]
          exact .cons hrecords hall

/-- Without a job no entry is made. -/
theorem walkFilters_entries_of_none (hjob : ctx.job = none) :
    ∀ (filters : List Node) (s : EvaluatorState (σ × List Call)),
      (walkFilters c.recorded header ctx vars filters s).2.entries = s.entries
  | [], _ => rfl
  | filter :: rest, s => by
    have hwalked : (walk (checkLeaf c.recorded header ctx vars) filter s).2.entries = s.entries :=
      walk_entries filter s
    rw [walkFilters]
    rcases hwalk : walk (checkLeaf c.recorded header ctx vars) filter s
      with ⟨e | ⟨verdict, conditions⟩, s₁⟩
    all_goals rw [hwalk] at hwalked
    · rw [Run.bind_of_error hwalk]
      exact hwalked
    · rw [Run.bind_of_ok hwalk]
      dsimp only
      rw [Run.bind_of_ok (recordAudit_none c.recorded hjob _ _ _)]
      cases verdict with
      | true => exact hwalked
      | false =>
        have hrest := walkFilters_entries_of_none hjob rest s₁
        rw [if_neg Bool.false_ne_true, Run.bind_pure_snd]
        exact hrest.trans hwalked

theorem decideStep_entries_of_none (hjob : ctx.job = none) (filters : List Node)
    (start : EvaluatorState (σ × List Call)) :
    (decideStep c.recorded header filters ctx start).2.entries = start.entries := by
  have hlooked : (variablesOf c.recorded ctx start).2.entries = start.entries :=
    variablesOf_entries start
  rw [decideStep]
  split
  · rfl
  · rcases hvars : variablesOf c.recorded ctx start with ⟨e | vars, begun⟩
    all_goals rw [hvars] at hlooked
    · rw [Run.bind_of_error hvars]
      exact hlooked
    · rw [Run.bind_of_ok hvars, Run.bind_pure_snd]
      exact (walkFilters_entries_of_none hjob filters begun).trans hlooked

end

/-! ### Traces from JSON -/

/-- The context was read from JSON, and so was its subscriber, stored or cached. -/
structure Collaborators.FromJson (c : Collaborators σ) (ctx : Context) (start : EvaluatorState σ) :
    Prop where
  context : Context.decode.Reads ctx
  stored : ∀ subscriber,
    (c.findSubscriber ctx.environmentId ctx.subscriberId start.world).1 = .ok (some subscriber) →
      Subscriber.decode.Reads subscriber
  cached : ∀ subscriber,
    start.cache.probe (ctx.environmentId, ctx.subscriberId) (c.now start.world) = some subscriber →
      Subscriber.decode.Reads subscriber

section

variable {c : Collaborators σ} {header : String} {ctx : Context} {vars : Variables}

theorem lookupSubscriber_settled {s : EvaluatorState (σ × List Call)}
    (h : c.FromJson ctx s.forget) {found : Option Subscriber}
    (hlookup : (lookupSubscriber c.recorded ctx.environmentId ctx.subscriberId s).1 = .ok found) :
    ∀ subscriber ∈ found, subscriber.Settled := by
  rintro subscriber rfl
  rcases lookupSubscriber_cases c.recorded ctx.environmentId ctx.subscriberId s with
    ⟨cached, hprobe, hcase⟩ | ⟨-, ⟨e, w, -, hcase⟩ | ⟨fetched, w, hfind, hcase⟩⟩
  all_goals
    rw [hcase] at hlookup
    cases hlookup
  · exact Subscriber.decode_yields.of_reads (h.cached _ hprobe)
  · exact Subscriber.decode_yields.of_reads (h.stored _ (Prod.mk.inj hfind).1)

/-- The variables are such that documents may hold them, whoever the subscriber is. -/
theorem Context.Settled.variables (h : ctx.Settled) {found : Option Subscriber}
    (hfound : ∀ subscriber ∈ found, subscriber.Settled) :
    Variables.Settled { ctx.baseVariables with subscriber := found.map Subscriber.toJson } := by
  intro source value hvalue
  cases source with
  | payload => exact h.payload_or value hvalue
  | subscriber =>
    obtain ⟨subscriber, hsubscriber, rfl⟩ := Option.map_eq_some_iff.mp hvalue
    exact (hfound subscriber hsubscriber).toJson
  | tenant => exact h.tenant value hvalue

theorem variablesOf_settled {start begun : EvaluatorState (σ × List Call)}
    (h : c.FromJson ctx start.forget)
    (hvars : variablesOf c.recorded ctx start = (.ok vars, begun)) : vars.Settled := by
  have hctx := Context.decode_yields.of_reads h.context
  rw [variablesOf] at hvars
  split at hvars
  · obtain ⟨found, t, hlookup, hvars⟩ := Run.bind_eq_ok_iff.mp hvars
    cases hvars
    exact hctx.variables (lookupSubscriber_settled h (by rw [hlookup]))
  · cases hvars
    exact hctx.variables hctx.subscriber

theorem walkFilters_traces : ∀ {filters : List Node} {s t : EvaluatorState (σ × List Call)}
    {passed : Bool} {traces : List Trace},
    walkFilters c.recorded header ctx vars filters s = (.ok (passed, traces), t) →
    ∀ trace ∈ traces, trace.filter ∈ filters ∧ trace.vars = vars
  | [], _, _, _, _, h => by
    cases h
    exact fun _ hmem => nomatch hmem
  | filter :: rest, s, t, passed, traces, h => by
    rw [walkFilters] at h
    obtain ⟨⟨verdict, conditions⟩, s₁, -, h⟩ := Run.bind_eq_ok_iff.mp h
    obtain ⟨_, s₂, -, h⟩ := Run.bind_eq_ok_iff.mp h
    have hfirst : filter ∈ filter :: rest := List.mem_cons_self ..
    cases verdict with
    | true =>
      cases h
      exact List.forall_mem_singleton.mpr ⟨hfirst, rfl⟩
    | false =>
      obtain ⟨⟨passed', traces'⟩, s₃, hrest, h⟩ := Run.bind_eq_ok_iff.mp h
      cases h
      refine List.forall_mem_cons.mpr ⟨⟨hfirst, rfl⟩, fun trace hmem => ?_⟩
      obtain ⟨hfilter, hvars⟩ := walkFilters_traces hrest trace hmem
      exact ⟨List.mem_cons_of_mem _ hfilter, hvars⟩

end

/-! ### Sinks -/

section

variable {ρ ρ' : Type}

/-- The same collaborators with an audit trail of its own state, which may keep entries, drop them
or fail as it likes. -/
def Collaborators.withSink (c : Collaborators σ) (sink : AuditEntry → Run ρ Unit) :
    Collaborators (σ × ρ) where
  findSubscriber environmentId subscriberId :=
    (c.findSubscriber environmentId subscriberId).onPart Prod.fst fun world s => (world, s.2)
  findJob query := (c.findJob query).onPart Prod.fst fun world s => (world, s.2)
  findMessage environmentId jobId :=
    (c.findMessage environmentId jobId).onPart Prod.fst fun world s => (world, s.2)
  countOpened query := (c.countOpened query).onPart Prod.fst fun world s => (world, s.2)
  findEnvironment environmentId organizationId :=
    (c.findEnvironment environmentId organizationId).onPart Prod.fst fun world s => (world, s.2)
  post request := (c.post request).onPart Prod.fst fun world s => (world, s.2)
  keep entry := (sink entry).onPart Prod.snd fun trail s => (s.1, trail)
  now s := c.now s.1

/-- Nothing differs but the audit trails: not the worlds, nor the calls so far. -/
def ApartFromSink (s : (σ × ρ) × List Call) (t : (σ × ρ') × List Call) : Prop :=
  s.1.1 = t.1.1 ∧ s.2 = t.2

theorem alike_withSink (c : Collaborators σ) (ctx : Context) (sink : AuditEntry → Run ρ Unit)
    (sink' : AuditEntry → Run ρ' Unit) :
    Alike (EvaluatorState.SameCache ApartFromSink) (c.withSink sink).recorded
      (c.withSink sink').recorded ctx := by
  have hcall {α : Type} (call : Call) (x : Run σ α) :
      Run.Related (@ApartFromSink σ ρ ρ')
        ((x.onPart Prod.fst fun world s => (world, s.2)).recorded call)
        ((x.onPart Prod.fst fun world s => (world, s.2)).recorded call) := by
    rintro ⟨⟨world, trail⟩, calls⟩ ⟨⟨_, trail'⟩, _⟩ ⟨rfl, rfl⟩
    exact ⟨rfl, rfl, rfl⟩
  exact {
    subscriber := lookupSubscriber_related (hcall _ _) fun s t h => congrArg c.now h.1
    job := fun _ => (hcall _ _).call
    message := fun _ => (hcall _ _).call
    opened := fun _ => (hcall _ _).call
    environment := (hcall _ _).call
    post := fun _ => (hcall _ _).call
    keep := by
      rintro entry s t ⟨⟨hworld, hcalls⟩, hcache⟩
      exact ⟨⟨hworld, congrArg (· ++ [Call.keep entry]) hcalls⟩, hcache⟩
    now := fun s t h => congrArg c.now h.1.1 }

end

/-! ### Evaluations -/

section

variable (c : Collaborators σ) (header : String) (ctx : Context) (filters : List Node)

/-- A successful evaluation for a job hands the audit trail one entry for each trace, in their
order, and each can be read back to its trace if the context and the subscriber come from JSON, no
number in the trace is a double and its brackets are not nested too deep. Without a job there is no
entry. And with any two audit trails, whatever becomes of the entries, an evaluation comes to the
same result and makes the same calls. -/
theorem decideStep_audited :
    (∀ start stop outcome,
      decideStep c.recorded header filters ctx start = (.ok outcome, stop) →
      ∀ job, ctx.job = some job → ∃ added, stop.entries = start.entries ++ added ∧
        List.Forall₂ (fun finished entry => entry.Records ctx job finished.1 finished.2)
          (Trace.verdicts outcome.passed outcome.traces) added ∧
        (c.FromJson ctx start.forget → (∀ filter ∈ filters, filter.fits = true) →
          List.Forall₂ (fun trace entry => trace.toJson.doubleFree = true →
            trace.toJson.nesting ≤ Json.Raw.deepest →
              Loader.ofJsonText Trace.decode entry.raw = .ok trace) outcome.traces added)) ∧
    (ctx.job = none → ∀ start,
      (decideStep c.recorded header filters ctx start).2.entries = start.entries) ∧
    ∀ {ρ ρ' : Type} (sink : AuditEntry → Run ρ Unit) (sink' : AuditEntry → Run ρ' Unit),
      Run.Related (EvaluatorState.SameCache ApartFromSink)
        (decideStep (c.withSink sink).recorded header filters ctx)
        (decideStep (c.withSink sink').recorded header filters ctx) := by
  refine ⟨fun start stop outcome h job hjob => ?_,
    fun hjob start => decideStep_entries_of_none hjob filters start,
    fun sink sink' => decideStep_related (alike_withSink c ctx sink sink') filters⟩
  rw [decideStep] at h
  split at h
  · cases h
    exact ⟨[], (List.append_nil _).symm, .nil, fun _ _ => .nil⟩
  · obtain ⟨vars, begun, hvars, h⟩ := Run.bind_eq_ok_iff.mp h
    obtain ⟨⟨passed, traces⟩, stop', hwalk, h⟩ := Run.bind_eq_ok_iff.mp h
    cases h
    have hbegun : (variablesOf c.recorded ctx start).2.entries = start.entries :=
      variablesOf_entries start
    rw [hvars] at hbegun
    obtain ⟨added, hadded, hrecords⟩ := walkFilters_entries hjob hwalk
    refine ⟨added, by rw [hadded, hbegun], hrecords, fun hjson hfits => ?_⟩
    have hreadable : ∀ trace ∈ traces, trace.toJson.doubleFree = true →
        trace.toJson.nesting ≤ Json.Raw.deepest →
          Loader.ofJsonText Trace.decode trace.toJson.compact = .ok trace := by
      intro trace hmem
      obtain ⟨hfilter, htrace⟩ := walkFilters_traces hwalk trace hmem
      exact Trace.ofJsonText_toJson (hfits _ hfilter) (htrace ▸ variablesOf_settled hjson hvars)
    have hraw : List.Forall₂ (fun (trace : Trace) entry => entry.raw = trace.toJson.compact)
        ((Trace.verdicts passed traces).map Prod.fst) added :=
      List.forall₂_map_left_iff.mpr (hrecords.imp fun _ _ hentry => hentry.raw)
    rw [Trace.map_fst_verdicts] at hraw
    refine ((List.forall₂_and_left traces added).mpr ⟨hreadable, hraw⟩).imp ?_
    rintro trace entry ⟨hread, hentry⟩
    rwa [hentry]

end

/-- Two alternatives for the sample: the first says no, and the second passes after its webhook was
asked. -/
def Node.asksTwice : List Node :=
  [.asksPlan "free", .group .and [.asksWebhook "https://a.test" "yes", .asksPlan "pro"]]

/-- The sample and its subscriber may come from JSON: their own texts are read as them. -/
theorem Collaborators.fromJson_sample :
    World.collaborators.FromJson Context.sample EvaluatorState.sample where
  context := Loader.reads_of_ofJsonText (Loader.ofJsonText_compact Context.decode
    (show Context.sample.toJson.legible = true from rfl) (by decide) rfl)
  stored subscriber h := by
    obtain rfl : subscriber = { id := "sub-1", isOnline := some true } :=
      (Option.some.inj (Except.ok.inj h)).symm
    exact Loader.reads_of_ofJsonText (Loader.ofJsonText_compact Subscriber.decode
      (show (Subscriber.toJson { id := "sub-1", isOnline := some true }).legible = true from rfl)
      (by decide) rfl)
  cached subscriber h := nomatch h

/-- The sample leaves two entries, which are read back to its traces; without its job it leaves
none, and an audit trail that refuses all entries changes nothing. -/
theorem decideStep_audited_twice :
    (∃ outcome stop added,
      decideStep World.collaborators.recorded "signature" Node.asksTwice Context.sample
        EvaluatorState.sample.recording = (.ok outcome, stop) ∧
      stop.entries = EvaluatorState.sample.recording.entries ++ added ∧
      List.Forall₂ (fun finished entry => entry.Records Context.sample
        ⟨"job-1", none, .email, none, none⟩ finished.1 finished.2)
          (Trace.verdicts outcome.passed outcome.traces) added ∧
      stop.entries.map AuditEntry.passed = [false, true] ∧
      List.Forall₂ (fun trace entry => Loader.ofJsonText Trace.decode entry.raw = .ok trace)
        outcome.traces added) ∧
    (decideStep World.collaborators.recorded "signature" Node.asksTwice
      { Context.sample with job := none } EvaluatorState.sample.recording).2.entries = [] ∧
    (decideStep (World.collaborators.withSink fun entry => Run.modify (· ++ [entry])).recorded
        "signature" Node.asksTwice Context.sample
        ⟨((World.sample, []), []), SubscriberCache.empty 1000 10⟩).1
      = (decideStep (World.collaborators.withSink fun _ => Run.fail (.other "audit down")).recorded
        "signature" Node.asksTwice Context.sample
        ⟨((World.sample, ()), []), SubscriberCache.empty 1000 10⟩).1 := by
  obtain ⟨outcome, stop, hdecide, hpassed, hlegible⟩ : ∃ outcome stop,
      decideStep World.collaborators.recorded "signature" Node.asksTwice Context.sample
        EvaluatorState.sample.recording = (.ok outcome, stop) ∧
      stop.entries.map AuditEntry.passed = [false, true] ∧
      outcome.traces.all (fun trace => trace.toJson.doubleFree &&
        trace.toJson.nesting ≤ Json.Raw.deepest) = true := ⟨_, _, rfl, rfl, rfl⟩
  have hfits : ∀ filter ∈ Node.asksTwice, filter.fits = true := by
    simp [Node.asksTwice, Node.asksPlan, Node.asksWebhook, Node.fits, Leaf.fits]
  obtain ⟨hrun, -, hsinks⟩ :=
    decideStep_audited World.collaborators "signature" Context.sample Node.asksTwice
  obtain ⟨-, hjobless, -⟩ :=
    decideStep_audited World.collaborators "signature" { Context.sample with job := none }
      Node.asksTwice
  obtain ⟨added, hadded, hrecords, hread⟩ := hrun _ _ _ hdecide _ rfl
  have hsame : EvaluatorState.SameCache ApartFromSink
      (⟨((World.sample, []), []), SubscriberCache.empty 1000 10⟩ :
        EvaluatorState ((World × List AuditEntry) × List Call))
      (⟨((World.sample, ()), []), SubscriberCache.empty 1000 10⟩ :
        EvaluatorState ((World × Unit) × List Call)) := ⟨⟨rfl, rfl⟩, rfl⟩
  refine ⟨⟨outcome, stop, added, hdecide, hadded, hrecords, hpassed, ?_⟩, hjobless rfl _,
    (hsinks _ _ _ _ hsame).1⟩
  have hall : ∀ trace ∈ outcome.traces, trace.toJson.doubleFree = true ∧
      trace.toJson.nesting ≤ Json.Raw.deepest := by simpa using hlegible
  refine ((List.forall₂_and_left _ _).mpr
    ⟨hall, hread Collaborators.fromJson_sample hfits⟩).imp ?_
  rintro trace entry ⟨⟨hdouble, hnesting⟩, hread⟩
  exact hread hdouble hnesting

end DeliveryGate
