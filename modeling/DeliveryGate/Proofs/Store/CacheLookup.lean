import DeliveryGate.Store.SubscriberCache
import Mathlib.Data.List.Basic

/-!
# What a cache holds and serves

`mem_commit` says which entries a cache may hold after a fetch was kept: earlier ones with other
keys, and the one that was fetched. `probe_commit` says what a lookup finds right after that: with a
time to live of zero nothing, and otherwise just what was fetched.
-/

namespace DeliveryGate

theorem Instant.since_self (now : Instant) : now.since now = 0 := by
  simp [Instant.since, Instant.leapBetween]

namespace SubscriberCache

variable (cache : SubscriberCache) (key : String × String) (now : Instant)

@[simp] theorem invalidate_ttlMs : (cache.invalidate key).ttlMs = cache.ttlMs := rfl

@[simp] theorem store_ttlMs (entry : CacheEntry) : (cache.store entry).ttlMs = cache.ttlMs := rfl

@[simp] theorem evict_ttlMs : (cache.evict now).ttlMs = cache.ttlMs := by
  simp only [evict]
  split
  · rfl
  · split <;> rfl

theorem find?_invalidate_self : (cache.invalidate key).find? key = none := by
  rw [find?, List.find?_eq_none]
  intro entry hentry
  have hkey := (List.mem_filter.mp hentry).2
  simpa using hkey

theorem find?_store_self (entry : CacheEntry) :
    (cache.store entry).find? entry.key = some entry := by
  have hnone := cache.find?_invalidate_self entry.key
  rw [find?] at hnone ⊢
  rw [store, List.find?_append, hnone]
  simp

/-- An entry is fresh at the time at which it is stored, unless nothing is ever fresh. -/
theorem isFresh_of_insertedAt {entry : CacheEntry} (hage : entry.insertedAt = now)
    (httl : cache.ttlMs ≠ 0) : cache.isFresh now entry = true := by
  have : 0 < cache.ttl := by
    rw [ttl]
    omega
  simp [isFresh, hage, Instant.since_self, this]

theorem probe_invalidate_self : (cache.invalidate key).probe key now = none := by
  rw [probe, find?_invalidate_self]
  rfl

theorem probe_store_self (subscriber : Subscriber) (httl : cache.ttlMs ≠ 0) :
    (cache.store ⟨key, subscriber, now⟩).probe key now = some subscriber := by
  have hfind := cache.find?_store_self ⟨key, subscriber, now⟩
  have hfresh := (cache.store ⟨key, subscriber, now⟩).isFresh_of_insertedAt now
    (rfl : CacheEntry.insertedAt ⟨key, subscriber, now⟩ = now) httl
  rw [probe, hfind, Option.filter_some, if_pos hfresh]
  rfl

/-- Right after a fetch was kept, it is served. -/
theorem probe_commit (fetched : Option Subscriber) :
    (cache.commit key fetched now).probe key now = if cache.ttlMs = 0 then none else fetched := by
  cases fetched with
  | none => simp [commit, probe_invalidate_self]
  | some subscriber =>
    by_cases httl : cache.ttlMs = 0
    · simp [commit, httl, probe_invalidate_self]
    · simp only [commit, httl, if_false]
      refine probe_store_self _ _ _ _ ?_
      split <;> simpa using httl

/-! ### Which entries there are -/

variable {cache key now} {entry : CacheEntry}

/-- An entry is fresh if its age is below the time to live; a negative age always is. -/
theorem isFresh_iff : cache.isFresh now entry = true ↔ now.since entry.insertedAt < cache.ttl := by
  have hzero : 0 ≤ cache.ttl := by
    rw [ttl]
    omega
  simp only [isFresh, Bool.or_eq_true, decide_eq_true_eq]
  omega

theorem mem_invalidate :
    entry ∈ (cache.invalidate key).entries ↔ entry ∈ cache.entries ∧ entry.key ≠ key := by
  simp [invalidate]

theorem mem_of_find? (h : cache.find? key = some entry) :
    entry ∈ cache.entries ∧ entry.key = key :=
  ⟨List.mem_of_find?_eq_some h, by simpa using List.find?_some h⟩

theorem evict_subset : (cache.evict now).entries ⊆ cache.entries := by
  simp only [evict]
  split
  · exact List.filter_subset_self _
  · split
    · exact List.filter_subset_self _
    · intro entry hentry
      exact List.mem_of_mem_filter (mem_invalidate.mp hentry).1

/-- After a fetch was kept there are only earlier entries with other keys, and what was fetched. -/
theorem mem_commit {fetched : Option Subscriber}
    (h : entry ∈ (cache.commit key fetched now).entries) :
    entry ∈ cache.entries ∧ entry.key ≠ key ∨
      ∃ subscriber, fetched = some subscriber ∧ cache.ttlMs ≠ 0 ∧
        entry = ⟨key, subscriber, now⟩ := by
  cases fetched with
  | none => exact Or.inl (mem_invalidate.mp h)
  | some subscriber =>
    simp only [commit] at h
    split at h
    · exact Or.inl (mem_invalidate.mp h)
    · rename_i httl
      rcases List.mem_append.mp h with hold | hnew
      · obtain ⟨hmem, hkey⟩ := mem_invalidate.mp hold
        refine Or.inl ⟨?_, hkey⟩
        split at hmem
        · exact evict_subset hmem
        · exact hmem
      · exact Or.inr ⟨subscriber, rfl, httl, List.mem_singleton.mp hnew⟩

@[simp] theorem commit_ttlMs (fetched : Option Subscriber) :
    (cache.commit key fetched now).ttlMs = cache.ttlMs := by
  cases fetched with
  | none => rfl
  | some subscriber =>
    simp only [commit]
    split
    · rfl
    · rw [store_ttlMs]
      split
      · exact evict_ttlMs ..
      · rfl

/-- A lookup is served by a fresh entry of its key. -/
theorem probe_eq_some_iff {subscriber : Subscriber} :
    cache.probe key now = some subscriber ↔
      ∃ entry, cache.find? key = some entry ∧ now.since entry.insertedAt < cache.ttl ∧
        entry.subscriber = subscriber := by
  simp only [probe, Option.map_eq_some_iff, Option.filter_eq_some_iff, isFresh_iff, and_assoc]

end SubscriberCache

end DeliveryGate
