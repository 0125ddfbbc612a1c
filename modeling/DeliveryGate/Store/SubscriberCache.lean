import DeliveryGate.Store.Record

/-!
# Subscriber cache

Subscribers that were fetched lately, under environment and identifier. A lookup has three steps:
`probe` serves a fresh entry; otherwise the caller fetches the row, and `commit` keeps what the
fetch found and forgets the key if it found nothing. An entry is fresh while it is younger than the
time to live; an age below zero (the clock went back) counts as fresh. When a new key comes to a
full cache, the expired entries go, or else the oldest one.
-/

namespace DeliveryGate

/-- A cached subscriber and when it was stored. -/
structure CacheEntry where
  key : String × String
  subscriber : Subscriber
  insertedAt : Instant

/-- The cached subscribers, with how long, in milliseconds as it is configured, and how many. -/
structure SubscriberCache where
  ttlMs : Nat
  capacity : Nat
  entries : List CacheEntry

namespace SubscriberCache

/-- An empty cache; it has room for one entry at least. -/
def empty (ttlMs capacity : Nat) : SubscriberCache := ⟨ttlMs, max capacity 1, []⟩

/-- The time to live in nanoseconds. -/
def ttl (cache : SubscriberCache) : Int := cache.ttlMs * 1000000

def isFresh (cache : SubscriberCache) (now : Instant) (entry : CacheEntry) : Bool :=
  let age := now.since entry.insertedAt
  age < 0 || age < cache.ttl

def find? (cache : SubscriberCache) (key : String × String) : Option CacheEntry :=
  cache.entries.find? fun entry => entry.key == key

/-- The cached subscriber, if its entry is fresh. -/
def probe (cache : SubscriberCache) (key : String × String) (now : Instant) :
    Option Subscriber :=
  ((cache.find? key).filter (cache.isFresh now)).map CacheEntry.subscriber

/-- The cache without a key. -/
def invalidate (cache : SubscriberCache) (key : String × String) : SubscriberCache :=
  { cache with entries := cache.entries.filter fun entry => entry.key != key }

/-- The entry that was stored first. -/
def oldest? : List CacheEntry → Option CacheEntry
  | [] => none
  | entry :: rest =>
    match oldest? rest with
    | none => some entry
    | some other => if other.insertedAt.lt entry.insertedAt then some other else some entry

/-- The cache without its expired entries, or without its oldest entry if it is still full. -/
def evict (cache : SubscriberCache) (now : Instant) : SubscriberCache :=
  let kept := { cache with entries := cache.entries.filter (cache.isFresh now) }
  if kept.entries.length < kept.capacity then kept
  else
    match oldest? kept.entries with
    | none => kept
    | some entry => kept.invalidate entry.key

/-- The cache with an entry, in the place of one with the same key. -/
def store (cache : SubscriberCache) (entry : CacheEntry) : SubscriberCache :=
  { cache with entries := (cache.invalidate entry.key).entries ++ [entry] }

/-- Keep what a fetch found: a subscriber is stored, a miss is forgotten. -/
def commit (cache : SubscriberCache) (key : String × String) (fetched : Option Subscriber)
    (now : Instant) : SubscriberCache :=
  match fetched with
  | some subscriber =>
    if cache.ttlMs = 0 then cache.invalidate key
    else
      let roomy :=
        if (cache.find? key).isNone && cache.capacity ≤ cache.entries.length then cache.evict now
        else cache
      roomy.store ⟨key, subscriber, now⟩
  | none => cache.invalidate key

end SubscriberCache

end DeliveryGate
