import DeliveryGate.Proofs.Store.Freshness
import Mathlib.Data.List.Nodup

/-!
# How much a cache holds

A cache never holds more entries than it has room for, and gives up as little as it can: only a new
key that comes to a full cache displaces others, and then all expired entries go, or one that was
stored first if there are none (`cache_bounded`).
-/

namespace DeliveryGate

namespace SubscriberCache

variable {cache : SubscriberCache} {key : String × String} {now : Instant} {entry : CacheEntry}

/-! ### Room -/

@[simp] theorem invalidate_capacity : (cache.invalidate key).capacity = cache.capacity := rfl

@[simp] theorem store_capacity : (cache.store entry).capacity = cache.capacity := rfl

@[simp] theorem evict_capacity : (cache.evict now).capacity = cache.capacity := by
  simp only [evict]
  split
  · rfl
  · split <;> rfl

/-- A new key comes to a full cache. -/
structure Crowded (cache : SubscriberCache) (key : String × String) : Prop where
  absent : ∀ entry ∈ cache.entries, entry.key ≠ key
  full : cache.capacity ≤ cache.entries.length

theorem crowded_iff : cache.Crowded key ↔
    ((cache.find? key).isNone && decide (cache.capacity ≤ cache.entries.length)) = true := by
  rw [Bool.and_eq_true, Option.isNone_iff_eq_none, find?, List.find?_eq_none, decide_eq_true_eq]
  simp only [beq_iff_eq]
  exact ⟨fun h => ⟨h.absent, h.full⟩, fun h => ⟨h.1, h.2⟩⟩

theorem commit_of_crowded (h : cache.Crowded key) (httl : cache.ttlMs ≠ 0)
    (subscriber : Subscriber) :
    cache.commit key (some subscriber) now = (cache.evict now).store ⟨key, subscriber, now⟩ := by
  simp only [commit, if_neg httl, if_pos (crowded_iff.mp h)]

theorem commit_of_room (h : ¬cache.Crowded key) (httl : cache.ttlMs ≠ 0) (subscriber : Subscriber) :
    cache.commit key (some subscriber) now = cache.store ⟨key, subscriber, now⟩ := by
  simp only [commit, if_neg httl, if_neg fun hfull => h (crowded_iff.mpr hfull)]

@[simp] theorem commit_capacity (fetched : Option Subscriber) :
    (cache.commit key fetched now).capacity = cache.capacity := by
  cases fetched with
  | none => rfl
  | some subscriber =>
    by_cases httl : cache.ttlMs = 0
    · rw [commit, if_pos httl, invalidate_capacity]
    · by_cases hcrowded : cache.Crowded key
      · rw [commit_of_crowded hcrowded httl, store_capacity, evict_capacity]
      · rw [commit_of_room hcrowded httl, store_capacity]

/-! ### Entries that stay -/

theorem mem_store {other : CacheEntry} :
    entry ∈ (cache.store other).entries ↔
      entry ∈ cache.entries ∧ entry.key ≠ other.key ∨ entry = other := by
  rw [store, List.mem_append, List.mem_singleton, mem_invalidate]

theorem mem_store_of_ne {other : CacheEntry} (hkey : entry.key ≠ other.key) :
    entry ∈ (cache.store other).entries ↔ entry ∈ cache.entries := by
  rw [mem_store]
  exact ⟨fun h => (h.resolve_right fun heq => hkey (heq ▸ rfl)).1, fun h => Or.inl ⟨h, hkey⟩⟩

/-- As long as there is room, to keep a fetch leaves the entries of other keys alone. -/
theorem mem_commit_of_room {fetched : Option Subscriber} (hkey : entry.key ≠ key)
    (h : fetched.isSome = true → ¬cache.Crowded key) :
    entry ∈ (cache.commit key fetched now).entries ↔ entry ∈ cache.entries := by
  have hforgotten : entry ∈ (cache.invalidate key).entries ↔ entry ∈ cache.entries :=
    mem_invalidate.trans (and_iff_left hkey)
  cases fetched with
  | none => exact hforgotten
  | some subscriber =>
    by_cases httl : cache.ttlMs = 0
    · rw [commit, if_pos httl, hforgotten]
    · rw [commit_of_room (h rfl) httl, mem_store_of_ne hkey]

/-! ### Entries that go -/

theorem oldest?_eq_none_iff {entries : List CacheEntry} :
    oldest? entries = none ↔ entries = [] := by
  cases entries with
  | nil => exact iff_of_true rfl rfl
  | cons first rest =>
    rw [oldest?]
    split
    · simp
    · split <;> simp

/-- No entry was stored before the oldest. -/
theorem oldest?_spec : ∀ {entries : List CacheEntry} {oldest : CacheEntry},
    oldest? entries = some oldest →
      oldest ∈ entries ∧ ∀ entry ∈ entries, entry.insertedAt.lt oldest.insertedAt = false
  | [], _, h => nomatch h
  | first :: rest, oldest, h => by
    have hself : ∀ t : Instant, t.lt t = false := fun t =>
      Instant.lt_eq_false_iff.mpr (Or.inr ⟨rfl, Nat.le_refl _⟩)
    rw [oldest?] at h
    split at h
    · rename_i hnone
      obtain rfl := oldest?_eq_none_iff.mp hnone
      cases h
      exact ⟨List.mem_cons_self .., List.forall_mem_singleton.mpr (hself _)⟩
    · rename_i other hother
      obtain ⟨hmem, hrest⟩ := oldest?_spec hother
      split at h
      · rename_i hlt
        cases h
        refine ⟨List.mem_cons_of_mem _ hmem, List.forall_mem_cons.mpr ⟨?_, hrest⟩⟩
        rw [Instant.lt_eq_false_iff]
        simp only [Instant.lt, Bool.or_eq_true, Bool.and_eq_true, decide_eq_true_eq,
          beq_iff_eq] at hlt
        omega
      · rename_i hnlt
        cases h
        refine ⟨List.mem_cons_self .., List.forall_mem_cons.mpr ⟨hself _, fun entry hentry => ?_⟩⟩
        exact Instant.not_lt_trans (Bool.eq_false_iff.mpr hnlt) (hrest entry hentry)

/-- A cache is a map from keys to entries, and there is room for all of them. -/
structure Bounded (cache : SubscriberCache) : Prop where
  keys : (cache.entries.map CacheEntry.key).Nodup
  length_le : cache.entries.length ≤ cache.capacity

/-- What has to go from a full cache: the expired entries, or else one that was stored first. -/
theorem Bounded.evict_cases (h : cache.Bounded) (hfull : cache.capacity ≤ cache.entries.length)
    (hroom : 0 < cache.capacity) (now : Instant) :
    ((∃ expired ∈ cache.entries, cache.isFresh now expired = false) ∧
      (cache.evict now).entries = cache.entries.filter (cache.isFresh now)) ∨
    ((∀ entry ∈ cache.entries, cache.isFresh now entry = true) ∧
      ∃ oldest ∈ cache.entries,
        (∀ entry ∈ cache.entries, entry.insertedAt.lt oldest.insertedAt = false) ∧
        (cache.evict now).entries = (cache.invalidate oldest.key).entries) := by
  simp only [evict]
  by_cases hfresh : ∀ entry ∈ cache.entries, cache.isFresh now entry = true
  · right
    rw [List.filter_eq_self.mpr hfresh, if_neg (Nat.not_lt.mpr hfull)]
    refine ⟨hfresh, ?_⟩
    split
    · rename_i hnone
      rw [oldest?_eq_none_iff.mp hnone] at hfull
      exact absurd hfull (Nat.not_le.mpr hroom)
    · rename_i oldest holdest
      obtain ⟨hmem, hfirst⟩ := oldest?_spec holdest
      exact ⟨oldest, hmem, hfirst, rfl⟩
  · left
    obtain ⟨expired, hmem, hexpired⟩ : ∃ expired ∈ cache.entries,
        cache.isFresh now expired = false := by simpa using hfresh
    have hless : (cache.entries.filter (cache.isFresh now)).length < cache.entries.length :=
      List.length_filter_lt_length_iff_exists.mpr ⟨expired, hmem, by simp [hexpired]⟩
    rw [if_pos (Nat.lt_of_lt_of_le hless h.length_le)]
    exact ⟨⟨expired, hmem, hexpired⟩, rfl⟩

/-! ### Bounds -/

theorem Bounded.invalidate (h : cache.Bounded) (key : String × String) :
    (cache.invalidate key).Bounded :=
  ⟨h.keys.sublist (List.filter_sublist.map _), Nat.le_trans (List.length_filter_le ..) h.length_le⟩

/-- Fewer entries are left when one of them is forgotten. -/
theorem length_invalidate_lt (h : ∃ entry ∈ cache.entries, entry.key = key) :
    (cache.invalidate key).entries.length < cache.entries.length := by
  obtain ⟨entry, hmem, hkey⟩ := h
  exact List.length_filter_lt_length_iff_exists.mpr ⟨entry, hmem, by simp [hkey]⟩

/-- To make room leaves a place free. -/
theorem Bounded.evict (h : cache.Bounded) (hfull : cache.capacity ≤ cache.entries.length)
    (hroom : 0 < cache.capacity) (now : Instant) :
    (cache.evict now).Bounded ∧ (cache.evict now).entries.length < cache.capacity := by
  obtain ⟨hkeys, hless⟩ : ((cache.evict now).entries.map CacheEntry.key).Nodup ∧
      (cache.evict now).entries.length < cache.entries.length := by
    rcases h.evict_cases hfull hroom now with
      ⟨⟨expired, hmem, hexpired⟩, hentries⟩ | ⟨-, oldest, hmem, -, hentries⟩
    · rw [hentries]
      exact ⟨h.keys.sublist (List.filter_sublist.map _),
        List.length_filter_lt_length_iff_exists.mpr ⟨expired, hmem, by simp [hexpired]⟩⟩
    · rw [hentries]
      exact ⟨(h.invalidate oldest.key).keys, length_invalidate_lt ⟨oldest, hmem, rfl⟩⟩
  have hfree : (cache.evict now).entries.length < cache.capacity :=
    Nat.lt_of_lt_of_le hless h.length_le
  exact ⟨⟨hkeys, by rw [evict_capacity]; exact Nat.le_of_lt hfree⟩, hfree⟩

/-- An entry may be stored where its key has one, or where there is room for one more. -/
theorem Bounded.store (h : cache.Bounded)
    (hroom : (∃ other ∈ cache.entries, other.key = entry.key) ∨
      cache.entries.length < cache.capacity) : (cache.store entry).Bounded where
  keys := by
    rw [SubscriberCache.store, List.map_append, List.nodup_append]
    refine ⟨(h.invalidate entry.key).keys, List.nodup_singleton _, ?_⟩
    rintro key hkey _ hother rfl
    obtain ⟨other, hmem, rfl⟩ := List.mem_map.mp hkey
    exact (mem_invalidate.mp hmem).2 (List.mem_singleton.mp hother)
  length_le := by
    rw [SubscriberCache.store, List.length_append, List.length_singleton]
    change (cache.invalidate entry.key).entries.length + 1 ≤ cache.capacity
    rcases hroom with hother | hless
    · exact Nat.le_trans (length_invalidate_lt hother) h.length_le
    · exact Nat.lt_of_le_of_lt (List.length_filter_le ..) hless

theorem Bounded.commit (h : cache.Bounded) (hroom : 0 < cache.capacity)
    (fetched : Option Subscriber) : (cache.commit key fetched now).Bounded := by
  cases fetched with
  | none => exact h.invalidate key
  | some subscriber =>
    by_cases httl : cache.ttlMs = 0
    · rw [SubscriberCache.commit, if_pos httl]
      exact h.invalidate key
    · by_cases hcrowded : cache.Crowded key
      · obtain ⟨hevicted, hless⟩ := h.evict hcrowded.full hroom now
        rw [commit_of_crowded hcrowded httl]
        exact hevicted.store (Or.inr (by rwa [evict_capacity]))
      · rw [commit_of_room hcrowded httl]
        refine h.store ?_
        by_cases hkey : ∃ other ∈ cache.entries, other.key = key
        · exact Or.inl hkey
        · refine Or.inr (Nat.lt_of_not_le fun hfull => hcrowded ⟨?_, hfull⟩)
          exact fun other hmem heq => hkey ⟨other, hmem, heq⟩

end SubscriberCache

/-! ### Runs -/

section

variable {σ : Type} {c : Collaborators σ}

namespace CacheState

variable {s : CacheState σ}

/-- A lookup leaves the cache as it is, or keeps what the repository has found. -/
theorem get_cache (s : CacheState σ) (environmentId subscriberId : String) :
    let t := (get c environmentId subscriberId s).2
    t.cache = s.cache ∨ ∃ found, s.stored c environmentId subscriberId = .ok found ∧
      t.cache = s.cache.commit (environmentId, subscriberId) found (t.now c) := by
  intro t
  rcases s.get_cases (c := c) environmentId subscriberId with
    ⟨_, _, _, _, hget⟩ | ⟨_, t', hget, _, ⟨_, _, hcache⟩ | ⟨found, hstored, hcache⟩⟩
  · exact Or.inl (by rw [show t = s from congrArg Prod.snd hget])
  · exact Or.inl (by rw [show t = t' from congrArg Prod.snd hget, hcache])
  · exact Or.inr ⟨found, hstored, by rw [show t = t' from congrArg Prod.snd hget, hcache]⟩

@[simp] theorem step_capacity (step : CacheStep σ) :
    (s.step c step).cache.capacity = s.cache.capacity := by
  cases step with
  | get environmentId subscriberId =>
    rw [CacheState.step]
    rcases s.get_cache (c := c) environmentId subscriberId with hcache | ⟨found, -, hcache⟩
    · rw [hcache]
    · rw [hcache, SubscriberCache.commit_capacity]
  | invalidate environmentId subscriberId => rfl
  | change f => rfl

/-- Each step keeps a cache in its bounds. -/
theorem step_bounded (h : s.cache.Bounded ∧ 0 < s.cache.capacity) (step : CacheStep σ) :
    (s.step c step).cache.Bounded ∧ 0 < (s.step c step).cache.capacity := by
  rw [step_capacity]
  refine ⟨?_, h.2⟩
  cases step with
  | get environmentId subscriberId =>
    rw [CacheState.step]
    rcases s.get_cache (c := c) environmentId subscriberId with hcache | ⟨found, -, hcache⟩
    · rw [hcache]
      exact h.1
    · rw [hcache]
      exact h.1.commit h.2 found
  | invalidate environmentId subscriberId => exact h.1.invalidate _
  | change f => exact h.1

/-- A lookup found the subscriber of a new key while the cache was full: how the entries after it
differ from those before. An entry is expired if its age is not below the time to live. -/
structure Admits (c : Collaborators σ) (ttlMs : Nat) (key : String × String)
    (subscriber : Subscriber) (s t : CacheState σ) : Prop where
  /-- The key has got its entry. -/
  stored : ⟨key, subscriber, t.now c⟩ ∈ t.cache.entries
  /-- If entries were expired, these have gone. -/
  expired : (∃ entry ∈ s.cache.entries,
      (ttlMs : Int) * 1000000 ≤ (t.now c).since entry.insertedAt) →
    ∀ entry, entry.key ≠ key → (entry ∈ t.cache.entries ↔
      entry ∈ s.cache.entries ∧ (t.now c).since entry.insertedAt < (ttlMs : Int) * 1000000)
  /-- Otherwise one entry has gone, and none was stored before this one. -/
  oldest : (∀ entry ∈ s.cache.entries,
      (t.now c).since entry.insertedAt < (ttlMs : Int) * 1000000) →
    ∃ displaced ∈ s.cache.entries,
      (∀ entry ∈ s.cache.entries, entry.insertedAt.lt displaced.insertedAt = false) ∧
      ∀ entry, entry.key ≠ key → (entry ∈ t.cache.entries ↔
        entry ∈ s.cache.entries ∧ entry.key ≠ displaced.key)

/-- A new key that comes to a full cache displaces as little as it can. -/
theorem admits_of_crowded {key : String × String} {subscriber : Subscriber} {t : CacheState σ}
    (hbounded : s.cache.Bounded) (hroom : 0 < s.cache.capacity) (httl : s.cache.ttlMs ≠ 0)
    (hcrowded : s.cache.Crowded key)
    (hcache : t.cache = s.cache.commit key (some subscriber) (t.now c)) :
    s.Admits c s.cache.ttlMs key subscriber t := by
  rw [SubscriberCache.commit_of_crowded hcrowded httl] at hcache
  have hmem {entry : CacheEntry} (hkey : entry.key ≠ key) :
      entry ∈ t.cache.entries ↔ entry ∈ (s.cache.evict (t.now c)).entries := by
    rw [hcache]
    exact SubscriberCache.mem_store_of_ne hkey
  have hfresh_iff (entry : CacheEntry) : s.cache.isFresh (t.now c) entry = true ↔
      (t.now c).since entry.insertedAt < (s.cache.ttlMs : Int) * 1000000 :=
    SubscriberCache.isFresh_iff
  refine ⟨?_, fun hexpired entry hkey => ?_, fun hyoung => ?_⟩
  · rw [hcache]
    exact SubscriberCache.mem_store.mpr (Or.inr rfl)
  · rcases hbounded.evict_cases hcrowded.full hroom (t.now c) with
      ⟨-, hentries⟩ | ⟨hfresh, -⟩
    · rw [hmem hkey, hentries, List.mem_filter, hfresh_iff]
    · obtain ⟨expired, hold, hstale⟩ := hexpired
      exact absurd ((hfresh_iff expired).mp (hfresh expired hold)) (Int.not_lt.mpr hstale)
  · rcases hbounded.evict_cases hcrowded.full hroom (t.now c) with
      ⟨⟨expired, hold, hstale⟩, -⟩ | ⟨-, displaced, hold, hfirst, hentries⟩
    · exact absurd ((hfresh_iff expired).mpr (hyoung expired hold)) (by simp [hstale])
    · refine ⟨displaced, hold, hfirst, fun entry hkey => ?_⟩
      rw [hmem hkey, hentries, SubscriberCache.mem_invalidate]

/-- In any run the entries have different keys and there are no more of them than the capacity, at
least one. A lookup leaves the entries of other keys alone, unless it finds the subscriber of a new
key while the cache is full: then the expired entries go, or one that was stored first. -/
theorem cache_bounded (c : Collaborators σ) (world : σ) (ttlMs capacity : Nat)
    (steps : List (CacheStep σ)) :
    let s := (start world ttlMs capacity).after c steps
    (s.cache.entries.map CacheEntry.key).Nodup ∧
    s.cache.entries.length ≤ s.cache.capacity ∧ s.cache.capacity = max capacity 1 ∧
    ∀ environmentId subscriberId,
      let key := (environmentId, subscriberId)
      let t := (get c environmentId subscriberId s).2
      (s.cache.Crowded key → ∀ subscriber,
        s.stored c environmentId subscriberId = .ok (some subscriber) →
          s.Admits c ttlMs key subscriber t) ∧
      (¬(s.cache.Crowded key ∧ ∃ subscriber,
          s.stored c environmentId subscriberId = .ok (some subscriber)) →
        ∀ entry, entry.key ≠ key → (entry ∈ t.cache.entries ↔ entry ∈ s.cache.entries)) := by
  intro s
  have hcapacity : s.cache.capacity = max capacity 1 :=
    after_induction (P := fun t => t.cache.capacity = max capacity 1)
      (fun _ step h => (step_capacity step).trans h) steps rfl
  have hsound : s.Sound :=
    after_induction (fun _ step h => h.step step) steps (sound_start world ttlMs capacity)
  obtain ⟨hbounded, hroom⟩ : s.cache.Bounded ∧ 0 < s.cache.capacity :=
    after_induction (P := fun t => t.cache.Bounded ∧ 0 < t.cache.capacity)
      (fun _ step h => step_bounded h step) steps
      ⟨⟨List.nodup_nil, Nat.zero_le _⟩, Nat.lt_of_lt_of_le Nat.one_pos (Nat.le_max_right ..)⟩
  refine ⟨hbounded.keys, hbounded.length_le, hcapacity, fun environmentId subscriberId => ?_⟩
  intro key t
  constructor
  · intro hcrowded subscriber hstored
    have httl : s.cache.ttlMs ≠ 0 := by
      intro hzero
      have hfull := hcrowded.full
      rw [hsound.empty hzero] at hfull
      exact absurd hfull (Nat.not_le.mpr hroom)
    rcases s.get_cases (c := c) environmentId subscriberId with
      ⟨entry, hmem, hkey, -⟩ | ⟨-, t', hget, -, ⟨e, herror, -⟩ | ⟨found, hfound, hcache⟩⟩
    · exact absurd hkey (hcrowded.absent entry hmem)
    · rw [hstored] at herror
      cases herror
    · rw [hstored] at hfound
      cases hfound
      obtain rfl : t = t' := congrArg Prod.snd hget
      have httlMs : s.cache.ttlMs = ttlMs := after_ttlMs steps
      exact httlMs ▸ admits_of_crowded hbounded hroom httl hcrowded hcache
  · intro hroomy entry hkey
    rcases s.get_cache (c := c) environmentId subscriberId with hcache | ⟨found, hstored, hcache⟩
    · rw [hcache]
    · rw [hcache]
      refine SubscriberCache.mem_commit_of_room hkey fun hfound hcrowded => hroomy ⟨hcrowded, ?_⟩
      obtain ⟨subscriber, rfl⟩ := Option.isSome_iff_exists.mp hfound
      exact ⟨subscriber, hstored⟩

end CacheState

end

namespace CacheState

/-- Three subscribers of one environment. -/
def threeStored : World :=
  { store := Store.ofRows [.subscriber "env-1" { id := "sub-1" },
      .subscriber "env-1" { id := "sub-2" }, .subscriber "env-1" { id := "sub-3" }]
    now := ⟨1709294400, 0⟩ }

/-- Two of them are looked up, half a second one after the other. -/
def looksUpTwo : List (CacheStep World) :=
  [.get "env-1" "sub-1", .change fun world => { world with now := ⟨1709294400, 500000000⟩ },
    .get "env-1" "sub-2"]

/-- The third one comes to a cache for two, and displaces the first: at once because it was stored
before the second, and a second later because it alone has expired. -/
theorem cache_bounded_third :
    let s := (start threeStored 1000 2).after World.collaborators looksUpTwo
    let later := s.after World.collaborators (clockReads ⟨1709294401, 0⟩)
    s.cache.Crowded ("env-1", "sub-3") ∧ later.cache.Crowded ("env-1", "sub-3") ∧
    (∃ displaced ∈ s.cache.entries, displaced.key = ("env-1", "sub-1") ∧
      ∀ entry, entry.key ≠ ("env-1", "sub-3") →
        (entry ∈ (get World.collaborators "env-1" "sub-3" s).2.cache.entries ↔
          entry ∈ s.cache.entries ∧ entry.key ≠ displaced.key)) ∧
    ∀ entry, entry.key ≠ ("env-1", "sub-3") →
      (entry ∈ (get World.collaborators "env-1" "sub-3" later).2.cache.entries ↔
        entry ∈ later.cache.entries ∧
          (⟨1709294401, 0⟩ : Instant).since entry.insertedAt < (1000 : Nat) * 1000000) := by
  intro s later
  have hcrowded : s.cache.Crowded ("env-1", "sub-3") := ⟨by decide, by decide⟩
  have hlater : later.cache.Crowded ("env-1", "sub-3") := ⟨by decide, by decide⟩
  obtain ⟨-, -, -, hs⟩ := cache_bounded World.collaborators threeStored 1000 2 looksUpTwo
  obtain ⟨-, -, -, ht⟩ := cache_bounded World.collaborators threeStored 1000 2
    (looksUpTwo ++ clockReads ⟨1709294401, 0⟩)
  refine ⟨hcrowded, hlater, ?_, ?_⟩
  · obtain ⟨displaced, hmem, hfirst, hstay⟩ :=
      ((hs "env-1" "sub-3").1 hcrowded { id := "sub-3" } rfl).oldest (by decide)
    refine ⟨displaced, hmem, ?_, hstay⟩
    rcases List.mem_cons.mp hmem with rfl | hmem
    · rfl
    · rw [List.mem_singleton.mp hmem] at hfirst
      exact absurd (hfirst _ (List.mem_cons_self ..)) (by decide)
  · exact ((ht "env-1" "sub-3").1 hlater { id := "sub-3" } rfl).expired (by decide)

end CacheState

end DeliveryGate
