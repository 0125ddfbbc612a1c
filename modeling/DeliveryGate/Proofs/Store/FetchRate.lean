import DeliveryGate.Proofs.Store.Capacity
import Mathlib.Data.List.Perm.Subperm

/-!
# How often a subscriber is fetched

If a cache has room for all keys that are looked up, no key ever displaces another. So a subscriber
who was found is not fetched again before the time to live is over, however many lookups of others
come in between and wherever the clock goes (`refetch_after_ttl`).
-/

namespace DeliveryGate

/-- A cache that holds some of these keys has room for another of them. -/
theorem SubscriberCache.Bounded.not_crowded {cache : SubscriberCache} (h : cache.Bounded)
    {keys : List (String × String)} (hroom : keys.length ≤ cache.capacity)
    (hkeys : ∀ entry ∈ cache.entries, entry.key ∈ keys) {key : String × String}
    (hkey : key ∈ keys) : ¬cache.Crowded key := by
  intro hcrowded
  have hnodup : (key :: cache.entries.map CacheEntry.key).Nodup := by
    refine List.nodup_cons.mpr ⟨fun hmem => ?_, h.keys⟩
    obtain ⟨entry, hentry, heq⟩ := List.mem_map.mp hmem
    exact hcrowded.absent entry hentry heq
  have hsubset : key :: cache.entries.map CacheEntry.key ⊆ keys := by
    refine List.cons_subset.mpr ⟨hkey, fun other hother => ?_⟩
    obtain ⟨entry, hentry, rfl⟩ := List.mem_map.mp hother
    exact hkeys entry hentry
  have hlength := (List.subperm_of_subset hnodup hsubset).length_le
  rw [List.length_cons, List.length_map] at hlength
  have hfull := hcrowded.full
  omega

theorem SubscriberCache.mem_commit_self {cache : SubscriberCache} (httl : cache.ttlMs ≠ 0)
    (key : String × String) (subscriber : Subscriber) (now : Instant) :
    ⟨key, subscriber, now⟩ ∈ (cache.commit key (some subscriber) now).entries := by
  by_cases hcrowded : cache.Crowded key
  · rw [commit_of_crowded hcrowded httl]
    exact mem_store.mpr (Or.inr rfl)
  · rw [commit_of_room hcrowded httl]
    exact mem_store.mpr (Or.inr rfl)

section

variable {σ : Type} {c : Collaborators σ}

/-- If a step is a lookup, it is one of these keys. -/
def CacheStep.LooksUpIn (keys : List (String × String)) : CacheStep σ → Prop
  | .get environmentId subscriberId => (environmentId, subscriberId) ∈ keys
  | _ => True

namespace CacheState

variable {s : CacheState σ} {keys : List (String × String)}

/-- The calls of the repository for a key. -/
def fetchesOf (s : CacheState σ) (key : String × String) : List Fetch :=
  s.fetches.filter fun fetch => fetch.key == key

/-- A step leaves the calls as they are, or it is a lookup and adds one of its key. -/
theorem step_fetches (s : CacheState σ) (step : CacheStep σ) :
    (s.step c step).fetches = s.fetches ∨ ∃ environmentId subscriberId result time,
      step = .get environmentId subscriberId ∧ (s.step c step).fetches
        = s.fetches ++ [⟨(environmentId, subscriberId), result, time⟩] := by
  cases step with
  | get environmentId subscriberId =>
    rw [CacheState.step]
    rcases s.get_cases (c := c) environmentId subscriberId with
      ⟨_, _, _, _, hget⟩ | ⟨_, t, hget, hfetches, _⟩
    · exact Or.inl (by rw [hget])
    · exact Or.inr ⟨environmentId, subscriberId, _, _, rfl, by rw [hget, hfetches]⟩
  | invalidate environmentId subscriberId => exact Or.inl rfl
  | change f => exact Or.inl rfl

theorem fetchesOf_prefix_step (s : CacheState σ) (step : CacheStep σ) (key : String × String) :
    s.fetchesOf key <+: (s.step c step).fetchesOf key := by
  rcases s.step_fetches (c := c) step with hsame | ⟨_, _, _, _, -, hmore⟩
  · have hkeep : (s.step c step).fetchesOf key = s.fetchesOf key := by
      simp only [fetchesOf, hsame]
    exact hkeep ▸ List.prefix_rfl
  · rw [fetchesOf, fetchesOf, hmore, List.filter_append]
    exact List.prefix_append ..

theorem fetchesOf_prefix_after (key : String × String) : ∀ (steps : List (CacheStep σ))
    (s : CacheState σ), s.fetchesOf key <+: (s.after c steps).fetchesOf key
  | [], _ => List.prefix_rfl
  | step :: rest, s =>
    (s.fetchesOf_prefix_step step key).trans (fetchesOf_prefix_after key rest (s.step c step))

/-! ### Room for all -/

/-- There is room for all of these keys, and none but these is cached. -/
structure HasRoomFor (keys : List (String × String)) (s : CacheState σ) : Prop where
  bounded : s.cache.Bounded
  positive : 0 < s.cache.capacity
  room : keys.length ≤ s.cache.capacity
  cached : ∀ entry ∈ s.cache.entries, entry.key ∈ keys

theorem HasRoomFor.step (h : s.HasRoomFor keys) {step : CacheStep σ} (hstep : step.LooksUpIn keys) :
    (s.step c step).HasRoomFor keys := by
  obtain ⟨hbounded, hpositive⟩ := step_bounded (c := c) ⟨h.bounded, h.positive⟩ step
  refine ⟨hbounded, hpositive, (step_capacity step).symm ▸ h.room, fun entry hentry => ?_⟩
  rcases mem_step hentry with ⟨hold, -⟩ | ⟨rfl, -⟩
  · exact h.cached entry hold
  · exact hstep

theorem HasRoomFor.after : ∀ {steps : List (CacheStep σ)} {s : CacheState σ}, s.HasRoomFor keys →
    (∀ step ∈ steps, step.LooksUpIn keys) → (s.after c steps).HasRoomFor keys
  | [], _, h, _ => h
  | step :: rest, s, h, hsteps => by
    obtain ⟨hstep, hrest⟩ := List.forall_mem_cons.mp hsteps
    exact HasRoomFor.after (s := s.step c step) (h.step hstep) hrest

/-- An entry stays until its key is invalidated or fetched again. -/
theorem HasRoomFor.mem_step (h : s.HasRoomFor keys) {step : CacheStep σ}
    (hstep : step.LooksUpIn keys) {entry : CacheEntry} (hentry : entry ∈ s.cache.entries)
    (hinvalidate : step ≠ .invalidate entry.key.1 entry.key.2)
    (hfetches : (s.step c step).fetchesOf entry.key = s.fetchesOf entry.key) :
    entry ∈ (s.step c step).cache.entries := by
  cases step with
  | get environmentId subscriberId =>
    have hroom : ¬s.cache.Crowded (environmentId, subscriberId) :=
      h.bounded.not_crowded h.room h.cached hstep
    rw [CacheState.step] at hfetches ⊢
    rcases s.get_cases (c := c) environmentId subscriberId with
      ⟨_, _, _, _, hget⟩ | ⟨_, t, hget, hmore, ⟨_, _, hcache⟩ | ⟨found, _, hcache⟩⟩
    · rwa [hget]
    · rwa [hget, hcache]
    · rw [hget] at hfetches ⊢
      rw [hcache]
      refine (SubscriberCache.mem_commit_of_room (fun hkey => ?_) fun _ => hroom).mpr hentry
      rw [fetchesOf, hmore, fetchesOf, List.filter_append, List.append_right_eq_self] at hfetches
      simp [hkey] at hfetches
  | invalidate environmentId subscriberId =>
    refine SubscriberCache.mem_invalidate.mpr ⟨hentry, fun hkey => hinvalidate ?_⟩
    rw [hkey]
  | change f => exact hentry

theorem HasRoomFor.mem_after {entry : CacheEntry} : ∀ {steps : List (CacheStep σ)}
    {s : CacheState σ}, s.HasRoomFor keys → (∀ step ∈ steps, step.LooksUpIn keys) →
    entry ∈ s.cache.entries → (∀ step ∈ steps, step ≠ .invalidate entry.key.1 entry.key.2) →
    (s.after c steps).fetchesOf entry.key = s.fetchesOf entry.key →
    entry ∈ (s.after c steps).cache.entries
  | [], _, _, _, hentry, _, _ => hentry
  | step :: rest, s, h, hsteps, hentry, hinvalidate, hfetches => by
    obtain ⟨hstep, hrest⟩ := List.forall_mem_cons.mp hsteps
    obtain ⟨hkept, hothers⟩ := List.forall_mem_cons.mp hinvalidate
    -- the calls of the key only grow, so that they are the same all the way
    have hbegin := s.fetchesOf_prefix_step (c := c) step entry.key
    have hend := fetchesOf_prefix_after (c := c) entry.key rest (s.step c step)
    change ((s.step c step).after c rest).fetchesOf entry.key = s.fetchesOf entry.key at hfetches
    rw [hfetches] at hend
    have hsame : (s.step c step).fetchesOf entry.key = s.fetchesOf entry.key :=
      hend.eq_of_length (Nat.le_antisymm hend.length_le hbegin.length_le)
    exact HasRoomFor.mem_after (s := s.step c step) (h.step hstep) hrest
      (h.mem_step hstep hentry hkept hsame) hothers (hfetches.trans hsame.symm)

/-! ### The next fetch -/

/-- A call of the repository has found a subscriber, when the clock read `found.now`. If the next
call for the same key is made when the clock reads `t.now`, and the key was not invalidated in
between, then the time to live has passed from one reading to the other, provided that the cache has
room for all keys that are looked up. -/
theorem refetch_after_ttl (c : Collaborators σ) (world : σ) (ttlMs capacity : Nat)
    (keys : List (String × String)) (before between : List (CacheStep σ))
    (environmentId subscriberId : String) (subscriber : Subscriber) :
    let lookup := CacheStep.get environmentId subscriberId
    let s := (start world ttlMs capacity).after c before
    let found := s.step c lookup
    let t := found.after c between
    0 < ttlMs → keys.length ≤ max capacity 1 →
    (∀ step ∈ before ++ lookup :: (between ++ [lookup]), step.LooksUpIn keys) →
    found.fetches = s.fetches
      ++ [⟨(environmentId, subscriberId), .ok (some subscriber), found.now c⟩] →
    (∀ step ∈ between, step ≠ .invalidate environmentId subscriberId) →
    t.fetchesOf (environmentId, subscriberId) = found.fetchesOf (environmentId, subscriberId) →
    (t.step c lookup).fetches ≠ t.fetches →
    (ttlMs : Int) * 1000000 ≤ (t.now c).since (found.now c) := by
  intro lookup s found t httl hkeys honly hfetched hinvalidate hsame hagain
  have hempty : (start world ttlMs capacity).HasRoomFor keys :=
    ⟨⟨List.nodup_nil, Nat.zero_le _⟩, Nat.lt_of_lt_of_le Nat.one_pos (Nat.le_max_right ..), hkeys,
      fun _ hentry => nomatch hentry⟩
  rw [List.forall_mem_append, List.forall_mem_cons, List.forall_mem_append] at honly
  obtain ⟨hbefore, hlookup, hbetween, -⟩ := honly
  have hroom : s.HasRoomFor keys := hempty.after hbefore
  have httls : s.cache.ttlMs = ttlMs := after_ttlMs (c := c) before
  -- the subscriber who was found has an entry
  have hentry : ⟨(environmentId, subscriberId), subscriber, found.now c⟩ ∈ found.cache.entries := by
    rcases s.get_cases (c := c) environmentId subscriberId with
      ⟨_, _, _, _, hget⟩ | ⟨_, t', hget, hmore, hcases⟩
    · rw [show found = s from congrArg Prod.snd hget] at hfetched
      simp at hfetched
    · obtain rfl : found = t' := congrArg Prod.snd hget
      rw [hfetched, List.append_cancel_left_eq, List.cons.injEq, Fetch.mk.injEq] at hmore
      rcases hcases with ⟨e, hstored, -⟩ | ⟨row, hstored, hcache⟩
      · cases hmore.1.2.1.trans hstored
      · cases hmore.1.2.1.trans hstored
        rw [hcache]
        exact SubscriberCache.mem_commit_self (by omega) ..
  -- nothing but its age can be why the repository is called again
  have hstays := (hroom.step (c := c) hlookup).mem_after hbetween hentry hinvalidate hsame
  have hsound : t.Sound := after_induction (fun _ step h => h.step step) between
    (Sound.step (after_induction (fun _ step h => h.step step) before
      (sound_start world ttlMs capacity)) lookup)
  have hyoung := mt (hsound.serves (c := c) environmentId subscriberId).unasked_iff.mpr hagain
  have hage : ¬(t.now c).since (found.now c) < t.cache.ttl := fun hlt =>
    hyoung ⟨_, hstays, rfl, hlt⟩
  rw [SubscriberCache.ttl, after_ttlMs, step_ttlMs, httls] at hage
  omega

end CacheState

end

namespace CacheState

/-- The clock goes back by a minute, another subscriber is looked up, and the clock goes on. -/
def lookupInThePast : List (CacheStep World) :=
  clockReads ⟨1709294340, 0⟩ ++ .get "env-1" "sub-2" :: clockReads ⟨1709294401, 0⟩

/-- A subscriber is fetched again one second later, which is the time to live. -/
theorem refetch_after_ttl_pastLookup :
    let found := (start threeStored 1000 2).step World.collaborators (.get "env-1" "sub-1")
    let t := found.after World.collaborators lookupInThePast
    found.fetches.length = 1 ∧ t.fetches.length = 2 ∧
      (t.step World.collaborators (.get "env-1" "sub-1")).fetches ≠ t.fetches ∧
      (1000 : Nat) * 1000000 ≤
        (t.now World.collaborators).since (found.now World.collaborators) := by
  intro found t
  have hagain : (t.step World.collaborators (.get "env-1" "sub-1")).fetches ≠ t.fetches :=
    fun h => absurd (congrArg List.length h) (by decide)
  refine ⟨rfl, rfl, hagain, ?_⟩
  refine refetch_after_ttl World.collaborators threeStored 1000 2
    [("env-1", "sub-1"), ("env-1", "sub-2")] [] lookupInThePast "env-1" "sub-1" { id := "sub-1" }
    (by decide) (by decide) ?_ rfl ?_ rfl hagain
  · simp [lookupInThePast, clockReads, CacheStep.LooksUpIn]
  · simp [lookupInThePast, clockReads]

end CacheState

end DeliveryGate
