import DeliveryGate.Evaluation.LeafCheck
import DeliveryGate.Proofs.Store.CacheLookup

/-!
# Runs of a cache

A subscriber cache over time: subscribers are looked up through it and keys are invalidated, and in
between the world changes in any way, so that rows come, change and go, the repository fails and
recovers, and the clock moves in either direction. The calls of the repository are written down with
what came of them; `get_cases` says what a lookup can do.
-/

namespace DeliveryGate

variable {σ τ ν α : Type}

/-! ### Fetches -/

/-- A call of the repository: for which key, what came of it, and the reading of the clock when it
came back. -/
structure Fetch where
  key : String × String
  result : Except Failure (Option Subscriber)
  time : Instant

/-- The last call for a key that did not fail. -/
def lastFetch? (fetches : List Fetch) (key : String × String) : Option Fetch :=
  (fetches.filter fun fetch => fetch.key == key && fetch.result.isOk).getLast?

theorem lastFetch?_concat (fetches : List Fetch) (fetch : Fetch) (key : String × String) :
    lastFetch? (fetches ++ [fetch]) key =
      if fetch.key = key ∧ fetch.result.isOk = true then some fetch
      else lastFetch? fetches key := by
  rw [lastFetch?, List.filter_append, List.filter_cons]
  by_cases h : fetch.key = key ∧ fetch.result.isOk = true
  · rw [if_pos (by simpa using h), if_pos h]
    simp
  · rw [if_neg (by simpa using h), if_neg h]
    simp [lastFetch?]

/-- Write something down about a computation. -/
def Run.noting (x : Run σ α) (note : Except Failure α → σ → ν) : Run (σ × List ν) α := fun s =>
  ((x s.1).1, (x s.1).2, s.2 ++ [note (x s.1).1 (x s.1).2])

/-- The same computation beside something else. -/
def Run.beside (x : Run σ α) : Run (σ × ν) α := Run.onPart Prod.fst (fun w s => (w, s.2)) x

/-- The same collaborators, with a list of the calls for subscribers. -/
def Collaborators.watched (c : Collaborators σ) : Collaborators (σ × List Fetch) where
  findSubscriber environmentId subscriberId :=
    (c.findSubscriber environmentId subscriberId).noting fun result w =>
      ⟨(environmentId, subscriberId), result, c.now w⟩
  findJob query := (c.findJob query).beside
  findMessage environmentId jobId := (c.findMessage environmentId jobId).beside
  countOpened query := (c.countOpened query).beside
  findEnvironment environmentId organizationId :=
    (c.findEnvironment environmentId organizationId).beside
  post request := (c.post request).beside
  keep entry := (c.keep entry).beside
  now s := c.now s.1

/-! ### Steps -/

/-- A cache in a world, with the calls of the repository so far. -/
abbrev CacheState (σ : Type) : Type := EvaluatorState (σ × List Fetch)

namespace CacheState

/-- A cache that nothing was looked up in. -/
def start (world : σ) (ttlMs capacity : Nat) : CacheState σ :=
  ⟨(world, []), SubscriberCache.empty ttlMs capacity⟩

/-- The calls of the repository so far. -/
def fetches (s : CacheState σ) : List Fetch := s.world.2

end CacheState

/-- What is done with a cache, or happens around it. -/
inductive CacheStep (σ : Type) where
  | get (environmentId subscriberId : String)
  | invalidate (environmentId subscriberId : String)
  /-- Rows are updated, the repository breaks down or recovers, the clock moves. -/
  | change (f : σ → σ)

section

variable (c : Collaborators σ)

/-- Look a subscriber up. -/
def CacheState.get (environmentId subscriberId : String) : Run (CacheState σ) (Option Subscriber) :=
  lookupSubscriber c.watched environmentId subscriberId

/-- The reading of the clock. -/
def CacheState.now (s : CacheState σ) : Instant := c.now s.world.1

/-- What the repository answers at the moment. -/
def CacheState.stored (s : CacheState σ) (environmentId subscriberId : String) :
    Except Failure (Option Subscriber) := (c.findSubscriber environmentId subscriberId s.world.1).1

/-- The state after a step. -/
def CacheState.step (s : CacheState σ) : CacheStep σ → CacheState σ
  | .get environmentId subscriberId => (get c environmentId subscriberId s).2
  | .invalidate environmentId subscriberId =>
    { s with cache := s.cache.invalidate (environmentId, subscriberId) }
  | .change f => { s with world := (f s.world.1, s.world.2) }

/-- The state after a sequence of steps. -/
def CacheState.after (s : CacheState σ) (steps : List (CacheStep σ)) : CacheState σ :=
  steps.foldl (step c) s

variable {c}

theorem watched_findSubscriber {environmentId subscriberId : String} {s t : σ × List Fetch}
    {result : Except Failure (Option Subscriber)}
    (h : c.watched.findSubscriber environmentId subscriberId s = (result, t)) :
    (c.findSubscriber environmentId subscriberId s.1).1 = result ∧
      t.2 = s.2 ++ [⟨(environmentId, subscriberId), result, c.now t.1⟩] := by
  cases h
  exact ⟨rfl, rfl⟩

namespace CacheState

/-- A lookup is served by a young entry; or the repository is called, and the lookup answers what
the repository does: a failure leaves the cache alone, anything else is kept. -/
theorem get_cases (s : CacheState σ) (environmentId subscriberId : String) :
    (∃ entry ∈ s.cache.entries, entry.key = (environmentId, subscriberId) ∧
      (s.now c).since entry.insertedAt < s.cache.ttl ∧
      get c environmentId subscriberId s = (.ok (some entry.subscriber), s)) ∨
    s.cache.probe (environmentId, subscriberId) (s.now c) = none ∧
      ∃ t, get c environmentId subscriberId s = (s.stored c environmentId subscriberId, t) ∧
        t.fetches = s.fetches ++
          [⟨(environmentId, subscriberId), s.stored c environmentId subscriberId, t.now c⟩] ∧
        ((∃ e, s.stored c environmentId subscriberId = .error e ∧ t.cache = s.cache) ∨
          ∃ found, s.stored c environmentId subscriberId = .ok found ∧
            t.cache = s.cache.commit (environmentId, subscriberId) found (t.now c)) := by
  rcases lookupSubscriber_cases c.watched environmentId subscriberId s with
    ⟨subscriber, hprobe, hget⟩ | ⟨hprobe, ⟨e, w, hfind, hget⟩ | ⟨found, w, hfind, hget⟩⟩
  · obtain ⟨entry, hfind, hyoung, rfl⟩ := SubscriberCache.probe_eq_some_iff.mp hprobe
    obtain ⟨hmem, hkey⟩ := SubscriberCache.mem_of_find? hfind
    exact Or.inl ⟨entry, hmem, hkey, hyoung, hget⟩
  · obtain ⟨hstored, hlog⟩ := watched_findSubscriber hfind
    rw [← stored] at hstored
    rw [hstored]
    exact Or.inr ⟨hprobe, ⟨w, s.cache⟩, hget, hlog, Or.inl ⟨e, rfl, rfl⟩⟩
  · obtain ⟨hstored, hlog⟩ := watched_findSubscriber hfind
    rw [← stored] at hstored
    rw [hstored]
    exact Or.inr ⟨hprobe, ⟨w, _⟩, hget, hlog, Or.inr ⟨found, rfl, rfl⟩⟩

theorem after_append (s : CacheState σ) (steps more : List (CacheStep σ)) :
    s.after c (steps ++ more) = (s.after c steps).after c more := List.foldl_append

end CacheState

end

end DeliveryGate
