import DeliveryGate.Proofs.Evaluation.Constant
import DeliveryGate.Proofs.Evaluation.Recorder
import DeliveryGate.Proofs.Walk.Deferral
import DeliveryGate.Proofs.Walk.Visit
import Mathlib.Data.List.Forall2

/-!
# Failed evaluations

When an evaluation fails, and what it has done until then. `decideStep_error_iff` says that it fails
exactly if the subscriber cannot be looked up for the variables, or a leaf that is visited fails;
that the audit trail then holds the filters evaluated before, each with a verdict of no; and that
only a webhook leaf can fail otherwise than by a lookup that failed itself. To find nothing is no
failure.
-/

namespace DeliveryGate

section

variable {σ : Type}

/-- Some lookup of a subscriber or of an earlier step fails like this. -/
inductive Collaborators.LookupFails (c : Collaborators σ) (e : Failure) : Prop
  | subscriber {environmentId subscriberId : String} {s t : σ} :
      c.findSubscriber environmentId subscriberId s = (.error e, t) → LookupFails c e
  | job {query : Store.JobQuery} {s t : σ} : c.findJob query s = (.error e, t) → LookupFails c e
  | message {environmentId jobId : String} {s t : σ} :
      c.findMessage environmentId jobId s = (.error e, t) → LookupFails c e
  | opened {query : Store.OpenedQuery} {s t : σ} :
      c.countOpened query s = (.error e, t) → LookupFails c e

variable {c : Collaborators σ} {header : String} {ctx : Context} {vars : Variables} {e : Failure}

/-! ### Lookups that fail -/

theorem lookupSubscriber_error {environmentId subscriberId : String} {s t : EvaluatorState σ}
    (h : lookupSubscriber c environmentId subscriberId s = (.error e, t)) : c.LookupFails e := by
  rcases lookupSubscriber_cases c environmentId subscriberId s with
    ⟨subscriber, -, hlookup⟩ | ⟨-, ⟨e', w, hfind, hlookup⟩ | ⟨found, w, -, hlookup⟩⟩
  · cases hlookup.symm.trans h
  · cases hlookup.symm.trans h
    exact .subscriber hfind
  · cases hlookup.symm.trans h

theorem presenceSubscriber_error {s t : EvaluatorState σ}
    (h : presenceSubscriber c ctx s = (.error e, t)) : c.LookupFails e := by
  cases hsnapshot : ctx.subscriber with
  | some subscriber =>
    simp only [presenceSubscriber, hsnapshot] at h
    cases h
  | none =>
    simp only [presenceSubscriber, hsnapshot] at h
    exact lookupSubscriber_error h

theorem checkPreviousStep_error {step : String} {state : StepState} {s t : σ}
    (h : checkPreviousStep c ctx step state s = (.error e, t)) : c.LookupFails e := by
  rcases Run.bind_eq_error_iff.mp h with hjob | ⟨job, s₁, -, h⟩
  · exact .job hjob
  cases job with
  | none => cases h
  | some job =>
    rcases Run.bind_eq_error_iff.mp h with hmessage | ⟨message, s₂, -, h⟩
    · exact .message hmessage
    cases message with
    | none => cases h
    | some message =>
      dsimp only at h
      split at h
      · rcases Run.bind_eq_error_iff.mp h with hopened | ⟨_, _, _, h⟩
        · exact .opened hopened
        · cases h
      · cases h

/-- A leaf that is no webhook fails only if a lookup does. -/
theorem checkLocalLeaf_error {l : Leaf} (hlocal : l.isWebhook = false) {s t : EvaluatorState σ}
    (h : checkLeaf c header ctx vars l s = (.error e, t)) : c.LookupFails e := by
  cases l with
  | field source test => cases h
  | webhook url test => cases hlocal
  | online expected =>
    rcases Run.bind_eq_error_iff.mp h with h | ⟨_, _, _, h⟩
    · exact presenceSubscriber_error h
    · cases h
  | onlineInLast window unit =>
    rcases Run.bind_eq_error_iff.mp h with h | ⟨_, _, _, h⟩
    · exact presenceSubscriber_error h
    · cases h
  | previousStep step state => exact checkPreviousStep_error (EvaluatorState.call_eq_iff.mp h).1

variable (c ctx) in
/-- The context only names the subscriber, and to look it up for the variables fails. -/
def VariablesFail (start : EvaluatorState σ) (e : Failure) (stop : EvaluatorState σ) : Prop :=
  ctx.subscriber = none ∧ ctx.subscriberId ≠ "" ∧
    lookupSubscriber c ctx.environmentId ctx.subscriberId start = (.error e, stop)

theorem variablesOf_error_iff {start stop : EvaluatorState σ} :
    variablesOf c ctx start = (.error e, stop) ↔ VariablesFail c ctx start e stop := by
  have hasked : (ctx.baseVariables.subscriber.isNone && !ctx.subscriberId.isEmpty) = true ↔
      ctx.subscriber = none ∧ ctx.subscriberId ≠ "" := by
    simp [Context.baseVariables]
  rw [variablesOf]
  by_cases h : ctx.subscriber = none ∧ ctx.subscriberId ≠ ""
  · rw [if_pos (hasked.mpr h), Run.bind_eq_error_iff]
    constructor
    · rintro (hlookup | ⟨_, _, _, h⟩)
      · exact ⟨h.1, h.2, hlookup⟩
      · cases h
    · exact fun hfail => Or.inl hfail.2.2
  · rw [if_neg (mt hasked.mp h)]
    constructor
    · intro h
      cases h
    · exact fun hfail => absurd ⟨hfail.1, hfail.2.1⟩ h

end

/-! ### Audit entries -/

section

variable {σ : Type} {c : Collaborators σ} {header : String} {ctx : Context} {vars : Variables}
  {filters : List Node} {start : EvaluatorState (σ × List Call)}

/-- Each finished filter has left one entry that says no, in the order of the filters. -/
theorem Reached.entries_eq {job : CurrentJob} (hjob : ctx.job = some job) {finished : List Trace}
    {conditions : List Condition} {s : EvaluatorState (σ × List Call)}
    (h : Reached c.recorded header ctx vars filters start finished conditions s) :
    ∃ added, s.entries = start.entries ++ added ∧
      List.Forall₂ (fun trace (entry : AuditEntry) => entry.Records ctx job trace false)
        finished added := by
  induction h with
  | start => exact ⟨[], (List.append_nil _).symm, .nil⟩
  | @answer _ _ s t _ l condition _ _ _ hcheck ih =>
    obtain ⟨added, hentries, hadded⟩ := ih
    have hsame : (checkLeaf c.recorded header ctx vars l s).2.entries = s.entries :=
      checkLeaf_entries l s
    rw [hcheck] at hsame
    exact ⟨added, hsame.trans hentries, hadded⟩
  | @finish _ conditions s filter _ _ _ ih =>
    obtain ⟨added, hentries, hadded⟩ := ih
    obtain ⟨entry, hrecords, hentry⟩ :=
      recordAudit_entries (c := c) hjob ⟨filter, vars, conditions⟩ false s
    refine ⟨added ++ [entry], ?_, List.rel_append hadded (.cons hrecords .nil)⟩
    rw [hentry, hentries, List.append_assoc]

end

/-! ### Failed evaluations -/

section

variable {σ : Type} (c : Collaborators σ) (header : String) (ctx : Context) (filters : List Node)

/-- After these traces, the evaluation comes to a leaf that fails. -/
def FailsAfter (start : EvaluatorState σ) (finished : List Trace) (e : Failure)
    (stop : EvaluatorState σ) : Prop :=
  ∃ vars begun l s, variablesOf c ctx start = (.ok vars, begun) ∧
    Visited c header ctx vars filters begun finished l s ∧
    checkLeaf c header ctx vars l s = (.error e, stop)

/-- The evaluation comes to no webhook leaf. -/
def VisitsNoWebhook (start : EvaluatorState σ) : Prop :=
  ∀ vars begun finished l s, variablesOf c ctx start = (.ok vars, begun) →
    Visited c header ctx vars filters begun finished l s → l.isWebhook = false

variable {c header ctx filters}

variable (c header ctx) in
theorem visitsNoWebhook_of_webhookFree (hfree : ∀ filter ∈ filters, filter.WebhookFree)
    (start : EvaluatorState σ) : VisitsNoWebhook c header ctx filters start := by
  intro vars begun finished l s _ hvisited
  obtain ⟨filter, hfilter, hl⟩ := hvisited.mem_leaves
  exact hfree filter hfilter l hl

theorem decideStep_error_cases (hne : filters ≠ []) {start stop : EvaluatorState σ} {e : Failure} :
    decideStep c header filters ctx start = (.error e, stop) ↔
      VariablesFail c ctx start e stop ∨
        ∃ finished, FailsAfter c header ctx filters start finished e stop := by
  rw [decideStep, if_neg (by simpa using hne), Run.bind_eq_error_iff, variablesOf_error_iff]
  refine or_congr_right ?_
  constructor
  · rintro ⟨vars, begun, hvars, h⟩
    rcases Run.bind_eq_error_iff.mp h with hwalk | ⟨_, _, _, h⟩
    · obtain ⟨finished, l, s, hvisited, hcheck⟩ := walkFilters_error_iff.mp hwalk
      exact ⟨finished, vars, begun, l, s, hvars, hvisited, hcheck⟩
    · cases h
  · rintro ⟨finished, vars, begun, l, s, hvars, hvisited, hcheck⟩
    have hwalk := walkFilters_error_iff.mpr ⟨finished, l, s, hvisited, hcheck⟩
    exact ⟨vars, begun, hvars, Run.bind_of_error hwalk⟩

/-- Without webhook leaves an evaluation fails only if a lookup does. -/
theorem decideStep_lookupFails (hne : filters ≠ []) {start stop : EvaluatorState σ} {e : Failure}
    (h : decideStep c header filters ctx start = (.error e, stop))
    (hlocal : VisitsNoWebhook c header ctx filters start) : c.LookupFails e := by
  rcases (decideStep_error_cases hne).mp h with
    ⟨-, -, hlookup⟩ | ⟨finished, vars, begun, l, s, hvars, hvisited, hcheck⟩
  · exact lookupSubscriber_error hlookup
  · exact checkLocalLeaf_error (hlocal vars begun finished l s hvars hvisited) hcheck

variable (c header ctx) in
/-- An evaluation of some filters fails exactly if the subscriber cannot be looked up for the
variables or a leaf that is visited fails. With a job, each filter before the one with this leaf has
then left one audit entry that says no, and no other filter has left any. If no webhook leaf is
visited, then a lookup itself has failed. -/
theorem decideStep_error_iff (hne : filters ≠ []) :
    (∀ start e stop, decideStep c header filters ctx start = (.error e, stop) ↔
      VariablesFail c ctx start e stop ∨
        ∃ finished, FailsAfter c header ctx filters start finished e stop) ∧
    (∀ job, ctx.job = some job → ∀ start e stop,
      (VariablesFail c.recorded ctx start e stop → stop.entries = start.entries) ∧
      ∀ finished, FailsAfter c.recorded header ctx filters start finished e stop →
        finished.map Trace.filter = filters.take finished.length ∧
        finished.length < filters.length ∧
        (∀ trace ∈ finished, trace.filter.replay trace.conditions = .done false []) ∧
        ∃ added, stop.entries = start.entries ++ added ∧
          List.Forall₂ (fun trace (entry : AuditEntry) => entry.Records ctx job trace false)
            finished added) ∧
    ∀ start e stop, decideStep c header filters ctx start = (.error e, stop) →
      VisitsNoWebhook c header ctx filters start → c.LookupFails e ∧
        ((∀ e, c.LookupFails e → ∃ text, e = .repository text) → ∃ text, e = .repository text) := by
  refine ⟨fun _ _ _ => decideStep_error_cases hne, fun job hjob start e stop => ⟨?_, ?_⟩, ?_⟩
  · intro hfail
    have hsame : (variablesOf c.recorded ctx start).2.entries = start.entries :=
      variablesOf_entries start
    rwa [variablesOf_error_iff.mpr hfail] at hsame
  · rintro finished ⟨vars, begun, l, s, hvars, ⟨conditions, filter, hreached, hnext, -⟩, hcheck⟩
    have hbegun : (variablesOf c.recorded ctx start).2.entries = start.entries :=
      variablesOf_entries start
    have hstop : (checkLeaf c.recorded header ctx vars l s).2.entries = s.entries :=
      checkLeaf_entries l s
    rw [hvars] at hbegun
    rw [hcheck] at hstop
    obtain ⟨added, hentries, hadded⟩ := hreached.entries_eq hjob
    refine ⟨hreached.filters_eq, (List.getElem?_eq_some_iff.mp hnext).1, hreached.replay_finished,
      added, ?_, hadded⟩
    rw [hstop, hentries, hbegun]
  · intro start e stop h hlocal
    have hlookup := decideStep_lookupFails hne h hlocal
    exact ⟨hlookup, fun hrepository => hrepository e hlookup⟩

theorem World.exists_repository_of_ask {α : Type} {repository : Repository} {find : Store → α}
    {s t : World} {e : Failure} (h : ask repository find s = (.error e, t)) :
    ∃ text, e = .repository text := by
  have hresult := congrArg Prod.fst h
  dsimp only [ask] at hresult
  split at hresult
  · exact ⟨_, (Except.error.inj hresult).symm⟩
  · cases hresult

/-- All failures of lookups in a world are those of its repositories. -/
theorem World.exists_repository_of_lookupFails {e : Failure} (h : collaborators.LookupFails e) :
    ∃ text, e = .repository text := by
  cases h with
  | subscriber h | job h | message h | opened h =>
    dsimp only [collaborators] at h
    exact exists_repository_of_ask h

/-- The first filter of the sample says no, and the webhook of the second refuses the connection. -/
def Node.asksRefused : List Node := [.asksPlan "free", .asksWebhook "https://b.test" "yes"]

/-- The first filter says no, and the second asks for an earlier step. -/
def Node.asksEarlier : List Node :=
  [.asksPlan "free", .leaf (.previousStep "step-1" .read)]

/-- The sample without its jobs. -/
def EvaluatorState.jobless : EvaluatorState World :=
  ⟨{ World.sample with failing := [.jobs] }, SubscriberCache.empty 1000 10⟩

/-- A webhook that refuses the connection ends an evaluation after one filter, which has left one
entry that says no; so do jobs that cannot be looked up, with a failure of their repository. -/
theorem decideStep_error_iff_refused :
    Node.asksRefused ≠ [] ∧ Node.asksEarlier ≠ [] ∧
      (∃ stop trace entry,
        FailsAfter World.collaborators.recorded "signature" Context.sample Node.asksRefused
          EvaluatorState.sample.recording [trace] (.webhook "https://b.test" "connection refused")
          stop ∧
        trace.filter = .asksPlan "free" ∧ stop.entries = [entry] ∧
        entry.Records Context.sample ⟨"job-1", none, .email, none, none⟩ trace false) ∧
      ∃ e stop text,
        decideStep World.collaborators "signature" Node.asksEarlier Context.sample
          EvaluatorState.jobless = (.error e, stop) ∧
        VisitsNoWebhook World.collaborators "signature" Context.sample Node.asksEarlier
          EvaluatorState.jobless ∧
        World.collaborators.LookupFails e ∧ e = .repository text := by
  have hrefused : Node.asksRefused ≠ [] := List.cons_ne_nil _ _
  have hearlier : Node.asksEarlier ≠ [] := List.cons_ne_nil _ _
  refine ⟨hrefused, hearlier, ?_, ?_⟩
  · obtain ⟨stop, hdecide, hlength⟩ : ∃ stop,
        decideStep World.collaborators.recorded "signature" Node.asksRefused Context.sample
          EvaluatorState.sample.recording
            = (.error (.webhook "https://b.test" "connection refused"), stop) ∧
        stop.entries.length = 1 := ⟨_, rfl, rfl⟩
    obtain ⟨hiff, -, -⟩ :=
      decideStep_error_iff World.collaborators.recorded "signature" Context.sample hrefused
    obtain ⟨-, haudit, -⟩ :=
      decideStep_error_iff World.collaborators "signature" Context.sample hrefused
    rcases (hiff _ _ _).mp hdecide with ⟨-, -, hlookup⟩ | ⟨finished, hfails⟩
    · cases hlookup
    obtain ⟨hfilters, -, -, added, hentries, hrecords⟩ := (haudit _ rfl _ _ _).2 finished hfails
    obtain rfl : stop.entries = added := hentries
    obtain ⟨entry, hentry⟩ := List.length_eq_one_iff.mp hlength
    obtain ⟨trace, rfl⟩ := List.length_eq_one_iff.mp (hrecords.length_eq.trans hlength)
    rw [hentry] at hrecords
    obtain ⟨hrecord, -⟩ := List.forall₂_cons.mp hrecords
    exact ⟨stop, trace, entry, hfails, List.singleton_inj.mp hfilters, hentry, hrecord⟩
  · obtain ⟨e, stop, hdecide⟩ : ∃ e stop,
        decideStep World.collaborators "signature" Node.asksEarlier Context.sample
          EvaluatorState.jobless = (.error e, stop) := ⟨_, _, rfl⟩
    obtain ⟨-, -, hlocal⟩ :=
      decideStep_error_iff World.collaborators "signature" Context.sample hearlier
    have hfree : ∀ filter ∈ Node.asksEarlier, filter.WebhookFree := by
      simp [Node.asksEarlier, Node.asksPlan, Node.WebhookFree, Leaf.isWebhook]
    have hvisits := visitsNoWebhook_of_webhookFree World.collaborators "signature" Context.sample
      hfree EvaluatorState.jobless
    obtain ⟨hlookup, hrepository⟩ := hlocal _ _ _ hdecide hvisits
    obtain ⟨text, htext⟩ := hrepository fun _ => World.exists_repository_of_lookupFails
    exact ⟨e, stop, text, hdecide, hvisits, hlookup, htext⟩

end

end DeliveryGate
