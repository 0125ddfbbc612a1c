import DeliveryGate.Proofs.Evaluation.Backed
import DeliveryGate.Proofs.Evaluation.Constant

/-!
# While the clock stands still

The calls of the collaborators may do what they like, except that the clock reads the same all the
time and the subscriber of the context is the same whenever it is fetched. Then every lookup of this
subscriber finds the same, whatever was in the cache at first (`lookupSubscriber_yielding`): a fresh
entry stays fresh, and what is fetched replaces it by what it was. The variables of an evaluation
and the requests of its webhooks agree in the subscriber for that reason.
-/

namespace DeliveryGate

variable {σ : Type}

/-- From worlds of this kind the computation leads to such worlds, whether or not it fails. -/
def Run.Keeps {α : Type} (kind : σ → Prop) (x : Run σ α) : Prop := ∀ s, kind s → kind (x s).2

/-- Calls lead from worlds of this kind to such worlds, and the clock reads the same in all of them.
-/
structure Collaborators.ClockStill (c : Collaborators σ) (kind : σ → Prop) (now : Instant) :
    Prop where
  findSubscriber : ∀ environmentId subscriberId,
    (c.findSubscriber environmentId subscriberId).Keeps kind
  findJob : ∀ query, (c.findJob query).Keeps kind
  findMessage : ∀ environmentId jobId, (c.findMessage environmentId jobId).Keeps kind
  countOpened : ∀ query, (c.countOpened query).Keeps kind
  findEnvironment : ∀ environmentId organizationId,
    (c.findEnvironment environmentId organizationId).Keeps kind
  post : ∀ request, (c.post request).Keeps kind
  keep : ∀ entry, (c.keep entry).Keeps kind
  now : ∀ s, kind s → c.now s = now

/-- In worlds of this kind, whenever the subscriber of a context is fetched, this is found. -/
def Collaborators.Fetches (c : Collaborators σ) (kind : σ → Prop) (ctx : Context)
    (row : Option Subscriber) : Prop :=
  ∀ w found next, kind w →
    c.findSubscriber ctx.environmentId ctx.subscriberId w = (.ok found, next) → found = row

namespace EvaluatorState

/-- The world is of this kind, and a lookup of the context's subscriber at this time finds this, if
it succeeds; what it fetches is a given row. -/
def Yielding (kind : σ → Prop) (ctx : Context) (now : Instant) (row found : Option Subscriber)
    (s : EvaluatorState (σ × List Call)) : Prop :=
  s.Serving (fun w => kind w.1) (ctx.environmentId, ctx.subscriberId) now (.ok row) (.ok found)

/-- The world is of this kind, and a lookup of the context's subscriber at this time finds this, if
it succeeds. -/
def Finding (kind : σ → Prop) (store : Store) (ctx : Context) (now : Instant)
    (found : Option Subscriber) (s : EvaluatorState (σ × List Call)) : Prop :=
  s.Serving (fun w => kind w.1) (ctx.environmentId, ctx.subscriberId) now
    (.ok (store.findSubscriber ctx.environmentId ctx.subscriberId)) (.ok found)

end EvaluatorState

section

variable {c : Collaborators σ} {kind : σ → Prop} {store : Store} {ctx : Context} {now : Instant}
  {row found : Option Subscriber} {s : EvaluatorState (σ × List Call)}

theorem EvaluatorState.yielding_iff :
    s.Yielding kind ctx now row found ↔ kind s.world.1 ∧
      (s.cache.probe (ctx.environmentId, ctx.subscriberId) now).or row = found := by
  have hanswer : s.cache.answer (ctx.environmentId, ctx.subscriberId) now (.ok row)
      = .ok ((s.cache.probe (ctx.environmentId, ctx.subscriberId) now).or row) := by
    rw [SubscriberCache.answer]
    cases s.cache.probe (ctx.environmentId, ctx.subscriberId) now <;> rfl
  constructor
  · intro h
    exact ⟨h.world, Except.ok.inj (hanswer.symm.trans h.cache)⟩
  · rintro ⟨hworld, rfl⟩
    exact ⟨hworld, hanswer⟩

/-- A lookup is served from the cache; or it calls the repository once, fails and leaves the cache
alone; or it calls the repository once and keeps what is always fetched. -/
theorem lookupSubscriber_still (hc : c.ClockStill kind now) (hfetch : c.Fetches kind ctx row)
    (hs : kind s.world.1) :
    (∃ subscriber,
      s.cache.probe (ctx.environmentId, ctx.subscriberId) now = some subscriber ∧
      lookupSubscriber c.recorded ctx.environmentId ctx.subscriberId s
        = (.ok (some subscriber), s)) ∨
    s.cache.probe (ctx.environmentId, ctx.subscriberId) now = none ∧ ∃ w, kind w ∧
      ((∃ e, lookupSubscriber c.recorded ctx.environmentId ctx.subscriberId s = (.error e,
        ⟨(w, s.world.2 ++ [.findSubscriber ctx.environmentId ctx.subscriberId]), s.cache⟩)) ∨
      lookupSubscriber c.recorded ctx.environmentId ctx.subscriberId s = (.ok row,
        ⟨(w, s.world.2 ++ [.findSubscriber ctx.environmentId ctx.subscriberId]),
          s.cache.commit (ctx.environmentId, ctx.subscriberId) row now⟩)) := by
  have hnow : c.recorded.now s.world = now := hc.now s.world.1 hs
  have hkind := hc.findSubscriber ctx.environmentId ctx.subscriberId s.world.1 hs
  rcases lookupSubscriber_cases c.recorded ctx.environmentId ctx.subscriberId s with
    ⟨subscriber, hprobe, hlookup⟩ | ⟨hprobe, ⟨e, w, hfind, hlookup⟩ | ⟨found, w, hfind, hlookup⟩⟩
  · rw [hnow] at hprobe
    exact Or.inl ⟨subscriber, hprobe, hlookup⟩
  · obtain ⟨-, rfl⟩ := Prod.mk.inj hfind
    rw [hnow] at hprobe
    exact Or.inr ⟨hprobe, _, hkind, Or.inl ⟨e, hlookup⟩⟩
  · obtain ⟨hfound, rfl⟩ := Prod.mk.inj hfind
    rw [hfetch s.world.1 found _ hs (Prod.ext hfound rfl)] at hlookup
    rw [hnow] at hprobe
    refine Or.inr ⟨hprobe, _, hkind, Or.inr (hlookup.trans ?_)⟩
    rw [show c.recorded.now _ = now from hc.now _ hkind]

/-- A lookup that succeeds finds the same as the others, and the next one will, too. -/
theorem lookupSubscriber_yielding (hc : c.ClockStill kind now) (hfetch : c.Fetches kind ctx row)
    (hs : s.Yielding kind ctx now row found) :
    (∀ answer, (lookupSubscriber c.recorded ctx.environmentId ctx.subscriberId s).1 = .ok answer →
      answer = found) ∧
    (lookupSubscriber c.recorded ctx.environmentId ctx.subscriberId s).2.Yielding
      kind ctx now row found := by
  obtain ⟨hkind, hfound⟩ := EvaluatorState.yielding_iff.mp hs
  rcases lookupSubscriber_still hc hfetch hkind with
    ⟨subscriber, hprobe, hlookup⟩ | ⟨hprobe, w, hw, ⟨e, hlookup⟩ | hlookup⟩
  all_goals
    rw [hprobe] at hfound
    rw [hlookup]
  · exact ⟨fun answer h => (Except.ok.inj h).symm.trans hfound, hs⟩
  · exact ⟨(fun answer h => nomatch h), hw, hs.cache⟩
  · exact ⟨fun answer h => (Except.ok.inj h).symm.trans hfound, hw,
      (SubscriberCache.answer_commit ..).trans (congrArg _ hfound)⟩

theorem Run.Keeps.yielding {α : Type} {x : Run σ α} (hx : x.Keeps kind) (call : Call)
    (hs : s.Yielding kind ctx now row found) :
    (EvaluatorState.call (x.recorded call) s).2.Yielding kind ctx now row found :=
  ⟨hx s.world.1 hs.world, hs.cache⟩

/-- Every call for a context leaves what its lookups find as it is. -/
theorem alike_yielding (hc : c.ClockStill kind now) (hfetch : c.Fetches kind ctx row) :
    Alike (fun s t => s = t ∧ s.Yielding kind ctx now row found) c.recorded c.recorded ctx where
  subscriber := Run.related_self_iff.mpr fun _ hs => (lookupSubscriber_yielding hc hfetch hs).2
  job _ := Run.related_self_iff.mpr fun _ hs => (hc.findJob _).yielding _ hs
  message _ := Run.related_self_iff.mpr fun _ hs => (hc.findMessage _ _).yielding _ hs
  opened _ := Run.related_self_iff.mpr fun _ hs => (hc.countOpened _).yielding _ hs
  environment := Run.related_self_iff.mpr fun _ hs => (hc.findEnvironment _ _).yielding _ hs
  post _ := Run.related_self_iff.mpr fun _ hs => (hc.post _).yielding _ hs
  keep entry := by
    rintro s _ ⟨rfl, hs⟩
    exact ⟨rfl, (hc.keep entry).yielding _ hs⟩
  now := by
    rintro s _ ⟨rfl, -⟩
    rfl

/-- The subscriber part of a request is the same each time. -/
theorem requestSubscriber_yielding (hc : c.ClockStill kind now) (hfetch : c.Fetches kind ctx row)
    (hs : s.Yielding kind ctx now row found) {vars : Variables} {subscriber : Json}
    (h : (requestSubscriber c.recorded ctx vars s).1 = .ok subscriber) :
    subscriber = vars.subscriber.getD (Json.ofOption Subscriber.toJson found) := by
  rw [requestSubscriber] at h
  cases hvars : vars.subscriber with
  | some known =>
    simp only [hvars, Run.pure_apply, Except.ok.injEq] at h
    exact h.symm
  | none =>
    simp only [hvars] at h
    rcases hlookup : lookupSubscriber c.recorded ctx.environmentId ctx.subscriberId s
      with ⟨e | answer, t⟩
    · rw [Run.bind_of_error hlookup] at h
      cases h
    · rw [Run.bind_of_ok hlookup] at h
      obtain rfl := (lookupSubscriber_yielding hc hfetch hs).1 answer (by rw [hlookup])
      exact (Except.ok.inj h).symm

/-- Answers leave what lookups find as it is. -/
theorem checkLeaf_yielding (hc : c.ClockStill kind now) (hfetch : c.Fetches kind ctx row)
    (hs : s.Yielding kind ctx now row found) (header : String) (vars : Variables) (l : Leaf) :
    (checkLeaf c.recorded header ctx vars l s).2.Yielding kind ctx now row found :=
  Run.related_self_iff.mp (checkLeaf_related (alike_yielding hc hfetch).toWebhooksAlike l) s hs

/-- So does recording. -/
theorem recordAudit_yielding (hc : c.ClockStill kind now) (hfetch : c.Fetches kind ctx row)
    (hs : s.Yielding kind ctx now row found) (trace : Trace) (passed : Bool) :
    (recordAudit c.recorded ctx trace passed s).2.Yielding kind ctx now row found :=
  Run.related_self_iff.mp (recordAudit_related (alike_yielding hc hfetch) trace passed) s hs

/-- The variables hold the snapshot of the context, or else whom a lookup finds if the context names
someone, and the payload that the context itself gives. -/
theorem variablesOf_yielding (hc : c.ClockStill kind now) (hfetch : c.Fetches kind ctx row)
    (hs : s.Yielding kind ctx now row found) {vars : Variables}
    {t : EvaluatorState (σ × List Call)} (h : variablesOf c.recorded ctx s = (.ok vars, t)) :
    t.Yielding kind ctx now row found ∧ vars.payload = ctx.baseVariables.payload ∧
      vars.subscriber = (ctx.subscriber.or
        (if ctx.subscriberId = "" then none else found)).map Subscriber.toJson := by
  have ht : (variablesOf c.recorded ctx s).2.Yielding kind ctx now row found :=
    Run.related_self_iff.mp (variablesOf_related (alike_yielding hc hfetch).toLookupsAlike) s hs
  rw [h] at ht
  refine ⟨ht, ?_⟩
  rw [variablesOf] at h
  cases hsnapshot : ctx.subscriber with
  | some subscriber =>
    rw [if_neg (by simp [Context.baseVariables, hsnapshot])] at h
    cases h
    exact ⟨rfl, by simp [Context.baseVariables, hsnapshot]⟩
  | none =>
    by_cases hid : ctx.subscriberId = ""
    · rw [if_neg (by simp [hid])] at h
      cases h
      exact ⟨rfl, by simp [Context.baseVariables, hsnapshot, hid]⟩
    · rw [if_pos (by simp [Context.baseVariables, hsnapshot, hid])] at h
      obtain ⟨answer, t', hlookup, h⟩ := Run.bind_eq_ok_iff.mp h
      cases h
      obtain rfl := (lookupSubscriber_yielding hc hfetch hs).1 answer (by rw [hlookup])
      exact ⟨rfl, by simp [hid]⟩

/-! ### Over a store -/

theorem Run.Keeps.answering {α β : Type} {x : Run σ β} (hx : x.Keeps kind) (a : α) :
    (x.answering a).Keeps kind := fun s hs => by
  rw [Run.answering, Run.bind_pure_snd]
  exact hx s hs

theorem Collaborators.ClockStill.over (hc : c.ClockStill kind now) (store : Store) :
    (c.over store).ClockStill kind now where
  findSubscriber _ _ := (hc.findSubscriber _ _).answering _
  findJob _ := (hc.findJob _).answering _
  findMessage _ _ := (hc.findMessage _ _).answering _
  countOpened _ := (hc.countOpened _).answering _
  findEnvironment _ _ := (hc.findEnvironment _ _).answering _
  post := hc.post
  keep := hc.keep
  now := hc.now

variable (c) in
/-- Every fetch that succeeds finds the row of the store, whatever the world would have answered. -/
theorem Collaborators.fetches_over (store : Store) :
    (c.over store).Fetches kind ctx (store.findSubscriber ctx.environmentId ctx.subscriberId) := by
  rintro w found next - h
  obtain ⟨_, _, -, h⟩ := Run.bind_eq_ok_iff.mp h
  cases h
  rfl

theorem alike_finding (hc : c.ClockStill kind now) :
    Alike (fun s t => s = t ∧ s.Finding kind store ctx now found) (c.over store).recorded
      (c.over store).recorded ctx :=
  alike_yielding (hc.over store) (c.fetches_over store)

theorem requestSubscriber_finding (hc : c.ClockStill kind now)
    (hs : s.Finding kind store ctx now found) {vars : Variables} {subscriber : Json}
    (h : (requestSubscriber (c.over store).recorded ctx vars s).1 = .ok subscriber) :
    subscriber = vars.subscriber.getD (Json.ofOption Subscriber.toJson found) :=
  requestSubscriber_yielding (hc.over store) (c.fetches_over store) hs h

end

/-! ### Scripted worlds -/

namespace World

/-- The calls of a scripted world do not move its clock. -/
theorem clockStill_collaborators (now : Instant) :
    collaborators.ClockStill (fun world => world.now = now) now where
  findSubscriber _ _ _ h := h
  findJob _ _ h := h
  findMessage _ _ _ h := h
  countOpened _ _ h := h
  findEnvironment _ _ _ h := h
  post _ _ h := h
  keep entry world h := by
    simp only [collaborators, World.keep]
    split <;> exact h
  now _ h := h

end World

end DeliveryGate
