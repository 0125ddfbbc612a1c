import DeliveryGate.Proofs.Evaluation.Backed
import DeliveryGate.Proofs.Evaluation.Constant

/-!
# The cache does not show

While rows of subscribers are only added, never replaced, a cache holds what the store holds, and so
a lookup finds the row of the store, from whatever cache. `run_cache_irrelevant` says that the
limits of the cache then make no difference: two services that differ in nothing else come to the
same results, send the same requests and leave the same audit entries.
-/

namespace DeliveryGate

variable {σ α : Type}

/-- Each entry is the row of the store. -/
def SubscriberCache.Mirrors (cache : SubscriberCache) (store : Store) : Prop :=
  ∀ entry ∈ cache.entries, store.subscribers.lookup entry.key = some entry.subscriber

theorem SubscriberCache.Mirrors.commit {cache : SubscriberCache} {store : Store}
    (h : cache.Mirrors store) (key : String × String) (now : Instant) :
    (cache.commit key (store.subscribers.lookup key) now).Mirrors store := by
  intro entry hentry
  rcases mem_commit hentry with ⟨hold, -⟩ | ⟨subscriber, hfound, -, rfl⟩
  · exact h entry hold
  · exact hfound

/-- A row may be inserted without replacing that of a subscriber. -/
def Store.Admits (store : Store) : Store.Row → Prop
  | .subscriber environmentId row => store.findSubscriber environmentId row.id = none
  | _ => True

theorem SubscriberCache.Mirrors.insert {cache : SubscriberCache} {store : Store}
    (h : cache.Mirrors store) {row : Store.Row} (hrow : store.Admits row) :
    cache.Mirrors (store.insert row) := by
  intro entry hentry
  have hfound := h entry hentry
  cases row with
  | subscriber environmentId subscriber =>
    have hkey : ¬ (entry.key == (environmentId, subscriber.id)) = true := by
      intro hkey
      rw [eq_of_beq hkey] at hfound
      cases hfound.symm.trans hrow
    rw [Store.insert, Store.lookup_put, if_neg hkey]
    exact hfound
  | _ => exact hfound

/-- Lookups of subscribers do not fail and have no other effect. -/
def Collaborators.SubscribersQuiet (c : Collaborators σ) : Prop :=
  ∀ environmentId subscriberId s, ∃ found,
    c.findSubscriber environmentId subscriberId s = (.ok found, s)

/-! ### Evaluations from two caches -/

/-- Nothing but the cache and the lookups of subscribers differs, and both caches are true to the
store. -/
structure EvaluatorState.Twins (store : Store) (s t : EvaluatorState (σ × List Call)) : Prop where
  world : s.world.1 = t.world.1
  requests : s.requests = t.requests
  entries : s.entries = t.entries
  mirrors : s.cache.Mirrors store
  mirrors' : t.cache.Mirrors store

section

variable {c : Collaborators σ} {store : Store}

/-- From a cache that is true to the store, a lookup finds the row of the store. -/
theorem lookupSubscriber_mirrors (hquiet : c.SubscribersQuiet) (environmentId subscriberId : String)
    {s : EvaluatorState (σ × List Call)} (h : s.cache.Mirrors store) :
    ∃ t, lookupSubscriber (c.over store).recorded environmentId subscriberId s
        = (.ok (store.findSubscriber environmentId subscriberId), t) ∧
      t.world.1 = s.world.1 ∧ t.requests = s.requests ∧ t.entries = s.entries ∧
      t.cache.Mirrors store := by
  have hfetch : (c.over store).recorded.findSubscriber environmentId subscriberId s.world
      = (.ok (store.findSubscriber environmentId subscriberId),
        (s.world.1, s.world.2 ++ [.findSubscriber environmentId subscriberId])) := by
    obtain ⟨found, hfound⟩ := hquiet environmentId subscriberId s.world.1
    simp only [Collaborators.recorded, Run.recorded, Collaborators.over,
      Run.answering_of_ok hfound]
  rcases lookupSubscriber_cases (c.over store).recorded environmentId subscriberId s with
    ⟨subscriber, hprobe, hlookup⟩ | ⟨-, ⟨e, w, hfind, -⟩ | ⟨found, w, hfind, hlookup⟩⟩
  · obtain ⟨entry, hfind, -, rfl⟩ := SubscriberCache.probe_eq_some_iff.mp hprobe
    obtain ⟨hmem, hkey⟩ := SubscriberCache.mem_of_find? hfind
    have hrow := h entry hmem
    rw [hkey] at hrow
    refine ⟨s, ?_, rfl, rfl, rfl, h⟩
    rw [hlookup, Store.findSubscriber, hrow]
  · cases hfind.symm.trans hfetch
  · obtain ⟨hfound, rfl⟩ := Prod.mk.inj (hfind.symm.trans hfetch)
    obtain rfl := Except.ok.inj hfound
    refine ⟨_, hlookup, rfl, ?_, ?_, h.commit _ _⟩
    · exact filterMap_concat_unseen rfl _ rfl
    · exact filterMap_concat_unseen rfl _ rfl

theorem twins_call (x : Run σ α) (call : Call) :
    Run.Related (EvaluatorState.Twins store) (EvaluatorState.call (x.recorded call))
      (EvaluatorState.call (x.recorded call)) := by
  rintro ⟨⟨w, calls⟩, cache⟩ ⟨⟨_, calls'⟩, cache'⟩ ⟨rfl, hrequests, hentries, h, h'⟩
  refine ⟨rfl, rfl, ?_, ?_, h, h'⟩
  · change (calls ++ [call]).filterMap Call.request? = (calls' ++ [call]).filterMap Call.request?
    rw [List.filterMap_append, List.filterMap_append]
    exact congrArg (· ++ _) hrequests
  · change (calls ++ [call]).filterMap Call.entry? = (calls' ++ [call]).filterMap Call.entry?
    rw [List.filterMap_append, List.filterMap_append]
    exact congrArg (· ++ _) hentries

theorem twins_alike (hquiet : c.SubscribersQuiet) (ctx : Context) :
    Alike (EvaluatorState.Twins store) (c.over store).recorded (c.over store).recorded ctx where
  subscriber s t h := by
    obtain ⟨s', hs, hsWorld, hsRequests, hsEntries, hsMirrors⟩ :=
      lookupSubscriber_mirrors hquiet ctx.environmentId ctx.subscriberId h.mirrors
    obtain ⟨t', ht, htWorld, htRequests, htEntries, htMirrors⟩ :=
      lookupSubscriber_mirrors hquiet ctx.environmentId ctx.subscriberId h.mirrors'
    rw [hs, ht]
    exact ⟨rfl, hsWorld.trans (h.world.trans htWorld.symm),
      hsRequests.trans (h.requests.trans htRequests.symm),
      hsEntries.trans (h.entries.trans htEntries.symm), hsMirrors, htMirrors⟩
  job _ := twins_call _ _
  message _ := twins_call _ _
  opened _ := twins_call _ _
  environment := twins_call _ _
  post _ := twins_call _ _
  keep entry s t h := (twins_call (c.keep entry) (.keep entry) s t h).2
  now s t h := congrArg c.now h.world

end

/-! ### Runs from two caches -/

namespace Service

/-- The same store, and evaluators that differ in nothing but the cache and the lookups. -/
def Twins (a b : Service σ) : Prop := a.store = b.store ∧ a.evaluator.Twins a.store b.evaluator

/-- The store after an event. -/
def Event.rows (store : Store) : Event σ → Store
  | .insert row => store.insert row
  | _ => store

/-- An event replaces no row of a subscriber. -/
def Event.Adds (store : Store) : Event σ → Prop
  | .insert row => store.Admits row
  | _ => True

/-- No event of a run replaces a row of a subscriber. -/
def AddsOnly : Store → List (Event σ) → Prop
  | _, [] => True
  | store, event :: rest => event.Adds store ∧ AddsOnly (event.rows store) rest

variable {c : Collaborators σ} (header : String) {a b : Service σ}

theorem step_store (event : Event σ) :
    (a.step c header event).2.store = event.rows a.store := by
  cases event <;> rfl

theorem Twins.evaluate (hquiet : c.SubscribersQuiet) (h : a.Twins b) (filters : List Node)
    (ctx : Context) :
    (a.evaluate c header filters ctx).1 = (b.evaluate c header filters ctx).1 ∧
      (a.evaluate c header filters ctx).2.Twins (b.evaluate c header filters ctx).2 := by
  obtain ⟨store, s⟩ := a
  obtain ⟨_, t⟩ := b
  obtain ⟨rfl, htwins⟩ := h
  have hrelated : Run.Related (EvaluatorState.Twins store)
      (decideStep (c.over store).recorded header filters ctx)
      (decideStep (c.over store).recorded header filters ctx) :=
    decideStep_related (twins_alike hquiet ctx) filters
  obtain ⟨hresult, hstop⟩ := hrelated s t htwins
  exact ⟨hresult, rfl, hstop⟩

theorem Twins.step (hquiet : c.SubscribersQuiet) (h : a.Twins b) {event : Event σ}
    (hadds : event.Adds a.store) :
    (a.step c header event).1 = (b.step c header event).1 ∧
      (a.step c header event).2.Twins (b.step c header event).2 := by
  cases event with
  | evaluate filters ctx =>
    obtain ⟨hresult, hnext⟩ := h.evaluate header hquiet filters ctx
    exact ⟨congrArg (fun r => [r]) hresult, hnext⟩
  | insert row =>
    obtain ⟨hstore, hworld, hrequests, hentries, hmirrors, hmirrors'⟩ := h
    exact ⟨rfl, congrArg (Store.insert · row) hstore, hworld, hrequests, hentries,
      hmirrors.insert hadds, hmirrors'.insert hadds⟩
  | outside change =>
    obtain ⟨hstore, hworld, hrequests, hentries, hmirrors, hmirrors'⟩ := h
    exact ⟨rfl, hstore, congrArg change hworld, hrequests, hentries, hmirrors, hmirrors'⟩

theorem Twins.run (hquiet : c.SubscribersQuiet) : ∀ {events : List (Event σ)} {a b : Service σ},
    a.Twins b → AddsOnly a.store events →
    (a.run c header events).1 = (b.run c header events).1 ∧
      (a.run c header events).2.Twins (b.run c header events).2
  | [], _, _, h, _ => ⟨rfl, h⟩
  | event :: rest, a, _, h, hadds => by
    obtain ⟨hresults, hnext⟩ := h.step header hquiet hadds.1
    have hrest : AddsOnly (a.step c header event).2.store rest := by
      rw [step_store]
      exact hadds.2
    obtain ⟨hmore, hlast⟩ := Twins.run hquiet hnext hrest
    exact ⟨congrArg₂ (· ++ ·) hresults hmore, hlast⟩

/-- Over a store to which rows of subscribers are only added, and whose lookups of subscribers do
not fail, the time to live and the capacity of the cache make no difference to the results of a
run, to the requests that are sent and to the audit entries that are left. -/
theorem run_cache_irrelevant (hquiet : c.SubscribersQuiet) {store : Store}
    {events : List (Event σ)} (hadds : AddsOnly store events) (world : σ)
    (ttlMs capacity ttlMs' capacity' : Nat) :
    ((start store world ttlMs capacity).run c header events).1
        = ((start store world ttlMs' capacity').run c header events).1 ∧
      ((start store world ttlMs capacity).run c header events).2.requests
        = ((start store world ttlMs' capacity').run c header events).2.requests ∧
      ((start store world ttlMs capacity).run c header events).2.entries
        = ((start store world ttlMs' capacity').run c header events).2.entries := by
  have htwins : (start store world ttlMs capacity).Twins (start store world ttlMs' capacity') :=
    ⟨rfl, rfl, rfl, rfl, fun _ h => (nomatch h), fun _ h => (nomatch h)⟩
  obtain ⟨hresults, -, hlast⟩ := htwins.run header hquiet hadds
  exact ⟨hresults, hlast.requests, hlast.entries⟩

/-- A scripted world in which lookups of subscribers are not written down. -/
def unlisted : Collaborators World :=
  { World.collaborators with findSubscriber := fun _ _ => pure none }

/-- The subscriber of the sample is looked up, another one comes, and time passes. -/
def sampleEvents : List (Event World) :=
  [.evaluate [.group .and [.asksWebhook "https://a.test" "yes", .leaf (.online true)]]
      Context.sample,
    .insert (.subscriber "env-1" { id := "sub-2" }),
    .outside fun world => { world with now := ⟨1709294500, 0⟩ },
    .evaluate [.asksWebhook "https://a.test" "no"] Context.sample]

/-- The events of the sample, with a cache of this time to live and this capacity. -/
def sampleRun (ttlMs capacity : Nat) : List (Except Failure Outcome) × Service World :=
  (start World.sample.store World.sample ttlMs capacity).run unlisted "signature" sampleEvents

/-- A cache for one second and ten subscribers does not show: not in the results, nor in the two
requests that are sent, nor in the two entries that are left. -/
theorem run_cache_irrelevant_sample :
    unlisted.SubscribersQuiet ∧ AddsOnly World.sample.store sampleEvents ∧
      (sampleRun 1000 10).1 = (sampleRun 0 0).1 ∧
      (sampleRun 1000 10).2.requests = (sampleRun 0 0).2.requests ∧
      (sampleRun 1000 10).2.entries = (sampleRun 0 0).2.entries ∧
      (sampleRun 1000 10).2.requests.map Request.url = ["https://a.test", "https://a.test"] ∧
      (sampleRun 1000 10).2.entries.map AuditEntry.passed = [true, false] := by
  have hquiet : unlisted.SubscribersQuiet := fun _ _ _ => ⟨none, rfl⟩
  have hadds : AddsOnly World.sample.store sampleEvents := ⟨trivial, rfl, trivial, trivial, trivial⟩
  obtain ⟨hresults, hrequests, hentries⟩ :=
    run_cache_irrelevant "signature" hquiet hadds World.sample 1000 10 0 0
  exact ⟨hquiet, hadds, hresults, hrequests, hentries, by decide +kernel, by decide +kernel⟩

end Service

end DeliveryGate
