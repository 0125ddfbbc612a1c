import DeliveryGate.Proofs.Store.CacheRun
import DeliveryGate.Scenario.World

/-!
# How fresh a cache is

What holds of a cache at any moment of any run: an entry is what the last successful call of the
repository found for its key, with the time of that call, and the repository is asked exactly if
there is no young entry (`cache_fresh`). So a row that was updated is seen once the time to live has
passed, as long as the clock goes forward and reads no leap second. Ages are differences of clock
readings, and these miss a leap second between them: `stale_after_leapSecond` is a run in which a
row is served that was updated a whole time to live ago.
-/

namespace DeliveryGate

/-! ### Times -/

namespace Instant

theorem lt_eq_false_iff {s t : Instant} :
    s.lt t = false ↔ t.seconds < s.seconds ∨ t.seconds = s.seconds ∧ t.nanos ≤ s.nanos := by
  simp only [lt, Bool.or_eq_false_iff, Bool.and_eq_false_iff, decide_eq_false_iff_not,
    beq_eq_false_iff_ne]
  omega

theorem not_lt_trans {a b c : Instant} (hab : b.lt a = false) (hbc : c.lt b = false) :
    c.lt a = false := by
  rw [lt_eq_false_iff] at *
  omega

theorem isLeap_eq_false_iff {t : Instant} : t.isLeap = false ↔ t.nanos < second := by
  simp [isLeap]

theorem leapBetween_eq_zero {now start : Instant} (hnow : now.isLeap = false)
    (hstart : start.isLeap = false) : now.leapBetween start = 0 := by
  simp [leapBetween, hnow, hstart]

/-- Outside of leap seconds, what is earlier is longer ago. -/
theorem since_le_since {now earlier later : Instant} (hnow : now.isLeap = false)
    (hearlier : earlier.isLeap = false) (hlater : later.isLeap = false)
    (h : later.lt earlier = false) : now.since later ≤ now.since earlier := by
  rw [since, since, leapBetween_eq_zero hnow hearlier, leapBetween_eq_zero hnow hlater]
  rw [lt_eq_false_iff] at h
  rw [isLeap_eq_false_iff, second] at hearlier hlater
  rw [second]
  omega

end Instant

section

variable {σ : Type} {c : Collaborators σ}

namespace CacheState

variable {s : CacheState σ} {entry : CacheEntry}

/-! ### Steps and runs -/

/-- What holds at first and is kept by each step holds after any number of them. -/
theorem after_induction {P : CacheState σ → Prop} (hstep : ∀ s step, P s → P (s.step c step)) :
    ∀ (steps : List (CacheStep σ)) {s : CacheState σ}, P s → P (s.after c steps)
  | [], _, h => h
  | step :: rest, s, h => after_induction hstep rest (hstep s step h)

@[simp] theorem step_ttlMs (step : CacheStep σ) : (s.step c step).cache.ttlMs = s.cache.ttlMs := by
  cases step with
  | get environmentId subscriberId =>
    rw [CacheState.step]
    rcases s.get_cases (c := c) environmentId subscriberId with
      ⟨_, _, _, _, hget⟩ | ⟨_, t, hget, _, ⟨_, _, hcache⟩ | ⟨_, _, hcache⟩⟩
    · rw [hget]
    · rw [hget, hcache]
    · rw [hget, hcache, SubscriberCache.commit_ttlMs]
  | invalidate environmentId subscriberId => rfl
  | change f => rfl

theorem after_ttlMs (steps : List (CacheStep σ)) :
    (s.after c steps).cache.ttlMs = s.cache.ttlMs :=
  after_induction (P := fun t => t.cache.ttlMs = s.cache.ttlMs)
    (fun _ step h => (step_ttlMs step).trans h) steps rfl

/-- An entry is an old one whose key was not fetched, or the repository has just found it. -/
theorem mem_step {step : CacheStep σ} (hentry : entry ∈ (s.step c step).cache.entries) :
    entry ∈ s.cache.entries ∧
        lastFetch? (s.step c step).fetches entry.key = lastFetch? s.fetches entry.key ∨
      step = .get entry.key.1 entry.key.2 ∧
        s.stored c entry.key.1 entry.key.2 = .ok (some entry.subscriber) ∧
        s.cache.ttlMs ≠ 0 ∧ entry.insertedAt = (s.step c step).now c ∧
        lastFetch? (s.step c step).fetches entry.key
          = some ⟨entry.key, .ok (some entry.subscriber), entry.insertedAt⟩ := by
  cases step with
  | get environmentId subscriberId =>
    rw [CacheState.step] at hentry ⊢
    rcases s.get_cases (c := c) environmentId subscriberId with
      ⟨_, _, _, _, hget⟩ | ⟨_, t, hget, hfetches, ⟨e, hstored, hcache⟩ | ⟨found, hstored, hcache⟩⟩
    · rw [hget] at hentry ⊢
      exact Or.inl ⟨hentry, rfl⟩
    · rw [hget] at hentry ⊢
      rw [hcache] at hentry
      rw [hfetches, hstored, lastFetch?_concat, if_neg (by simp [Except.isOk, Except.toBool])]
      exact Or.inl ⟨hentry, rfl⟩
    · rw [hget] at hentry ⊢
      rw [hcache] at hentry
      rw [hfetches, hstored, lastFetch?_concat]
      rcases SubscriberCache.mem_commit hentry with
        ⟨hold, hkey⟩ | ⟨subscriber, rfl, httl, rfl⟩
      · rw [if_neg fun h => hkey h.1.symm]
        exact Or.inl ⟨hold, rfl⟩
      · rw [if_pos ⟨rfl, rfl⟩]
        exact Or.inr ⟨rfl, hstored, httl, rfl, rfl⟩
  | invalidate environmentId subscriberId =>
    exact Or.inl ⟨(SubscriberCache.mem_invalidate.mp hentry).1, rfl⟩
  | change f => exact Or.inl ⟨hentry, rfl⟩

/-! ### Entries and calls -/

/-- What a cache owes to the calls of the repository so far. -/
structure Sound (s : CacheState σ) : Prop where
  /-- An entry is what the last successful call for its key found, with the time of that call. -/
  entries : ∀ entry ∈ s.cache.entries, lastFetch? s.fetches entry.key
    = some ⟨entry.key, .ok (some entry.subscriber), entry.insertedAt⟩
  /-- Without a time to live there are no entries. -/
  empty : s.cache.ttlMs = 0 → s.cache.entries = []

theorem sound_start (world : σ) (ttlMs capacity : Nat) : (start world ttlMs capacity).Sound :=
  ⟨fun _ h => (nomatch h), fun _ => rfl⟩

theorem Sound.step (h : s.Sound) (step : CacheStep σ) : (s.step c step).Sound where
  entries entry hentry := by
    rcases mem_step hentry with ⟨hold, hsame⟩ | ⟨-, -, -, -, hfetch⟩
    · rw [hsame, h.entries entry hold]
    · exact hfetch
  empty httl := by
    rw [step_ttlMs] at httl
    rw [List.eq_nil_iff_forall_not_mem]
    intro entry hentry
    rcases mem_step hentry with ⟨hold, -⟩ | ⟨-, -, hpositive, -⟩
    · rw [h.empty httl] at hold
      cases hold
    · exact hpositive httl

/-- There is one entry for a key at most. -/
theorem Sound.eq_of_key (h : s.Sound) {other : CacheEntry} (hentry : entry ∈ s.cache.entries)
    (hother : other ∈ s.cache.entries) (hkey : entry.key = other.key) :
    entry.subscriber = other.subscriber ∧ entry.insertedAt = other.insertedAt := by
  have hfetch := (h.entries entry hentry).symm.trans (hkey ▸ h.entries other hother)
  simpa [hkey] using hfetch

/-- A young entry is served, and nothing else happens. -/
theorem Sound.get_of_young (h : s.Sound) {environmentId subscriberId : String}
    (hentry : entry ∈ s.cache.entries) (hkey : entry.key = (environmentId, subscriberId))
    (hyoung : (s.now c).since entry.insertedAt < s.cache.ttl) :
    get c environmentId subscriberId s = (.ok (some entry.subscriber), s) := by
  obtain ⟨found, hfound⟩ : ∃ found, s.cache.find? (environmentId, subscriberId) = some found :=
    Option.isSome_iff_exists.mp
      (List.find?_isSome.mpr ⟨entry, hentry, beq_iff_eq.mpr hkey⟩)
  obtain ⟨hmem, hkey'⟩ := SubscriberCache.mem_of_find? hfound
  obtain ⟨hsubscriber, hinserted⟩ := h.eq_of_key hentry hmem (hkey.trans hkey'.symm)
  have hprobe : s.cache.probe (environmentId, subscriberId) (s.now c) = some entry.subscriber :=
    SubscriberCache.probe_eq_some_iff.mpr ⟨found, hfound, hinserted ▸ hyoung, hsubscriber.symm⟩
  rcases s.get_cases (c := c) environmentId subscriberId with
    ⟨other, hother, hkey', -, hget⟩ | ⟨hnone, -⟩
  · rw [hget, (h.eq_of_key hentry hother (hkey.trans hkey'.symm)).1]
  · rw [hprobe] at hnone
    cases hnone

/-! ### What a lookup answers -/

/-- There is an entry of the key that is younger than the time to live. -/
def HasYoung (c : Collaborators σ) (s : CacheState σ) (environmentId subscriberId : String) :
    Prop :=
  ∃ entry ∈ s.cache.entries, entry.key = (environmentId, subscriberId) ∧
    (s.now c).since entry.insertedAt < s.cache.ttl

/-- What a lookup owes to the state in which it is made. -/
structure Serves (c : Collaborators σ) (s : CacheState σ) (environmentId subscriberId : String) :
    Prop where
  /-- The repository is left alone exactly if there is a young entry. -/
  unasked_iff : (get c environmentId subscriberId s).2.fetches = s.fetches ↔
    s.HasYoung c environmentId subscriberId
  /-- A young entry is served. -/
  of_young : ∀ entry ∈ s.cache.entries, entry.key = (environmentId, subscriberId) →
    (s.now c).since entry.insertedAt < s.cache.ttl →
    get c environmentId subscriberId s = (.ok (some entry.subscriber), s)
  /-- Otherwise the repository is called once, and its answer is that of the lookup. -/
  of_not_young : ¬ s.HasYoung c environmentId subscriberId →
    (get c environmentId subscriberId s).1 = s.stored c environmentId subscriberId ∧
      (get c environmentId subscriberId s).2.fetches = s.fetches ++
        [⟨(environmentId, subscriberId), s.stored c environmentId subscriberId,
          (get c environmentId subscriberId s).2.now c⟩]
  /-- Nobody is found only if the repository holds nobody. -/
  of_none : (get c environmentId subscriberId s).1 = .ok none →
    s.stored c environmentId subscriberId = .ok none
  /-- A failure is one of the repository, and it leaves the cache as it is. -/
  of_error : ∀ e, (get c environmentId subscriberId s).1 = .error e →
    s.stored c environmentId subscriberId = .error e ∧
      (get c environmentId subscriberId s).2.cache = s.cache

theorem Sound.serves (h : s.Sound) (environmentId subscriberId : String) :
    s.Serves c environmentId subscriberId := by
  have hasked : ¬ s.HasYoung c environmentId subscriberId →
      ∃ t, get c environmentId subscriberId s = (s.stored c environmentId subscriberId, t) ∧
        t.fetches = s.fetches ++
          [⟨(environmentId, subscriberId), s.stored c environmentId subscriberId, t.now c⟩] ∧
        ((∃ e, s.stored c environmentId subscriberId = .error e ∧ t.cache = s.cache) ∨
          ∃ found, s.stored c environmentId subscriberId = .ok found) := by
    intro hold
    rcases s.get_cases (c := c) environmentId subscriberId with
      ⟨entry, hentry, hkey, hyoung, -⟩ | ⟨-, t, hget, hfetches, hcases⟩
    · exact absurd ⟨entry, hentry, hkey, hyoung⟩ hold
    · exact ⟨t, hget, hfetches, hcases.imp_right fun ⟨found, hstored, _⟩ => ⟨found, hstored⟩⟩
  by_cases hyoung : s.HasYoung c environmentId subscriberId
  · obtain ⟨entry, hentry, hkey, hage⟩ := hyoung
    have hget := h.get_of_young hentry hkey hage
    exact
      { unasked_iff := iff_of_true (by rw [hget]) ⟨entry, hentry, hkey, hage⟩
        of_young := fun _ hentry hkey hage => h.get_of_young hentry hkey hage
        of_not_young := fun hold => absurd ⟨entry, hentry, hkey, hage⟩ hold
        of_none := by
          rw [hget]
          intro hnone
          cases hnone
        of_error := by
          rw [hget]
          intro e herror
          cases herror }
  · obtain ⟨t, hget, hfetches, hcases⟩ := hasked hyoung
    exact
      { unasked_iff := iff_of_false (by simp [hget, hfetches]) hyoung
        of_young := fun _ hentry hkey hage => h.get_of_young hentry hkey hage
        of_not_young := fun _ => by
          rw [hget]
          exact ⟨rfl, hfetches⟩
        of_none := by
          rw [hget]
          exact id
        of_error := by
          rw [hget]
          intro e herror
          rcases hcases with ⟨_, _, hcache⟩ | ⟨found, hstored⟩
          · exact ⟨herror, hcache⟩
          · rw [hstored] at herror
            cases herror }

/-! ### Keys that were invalidated -/

/-- A key without an entry has none until it is looked up. -/
theorem after_without {key : String × String} : ∀ {steps : List (CacheStep σ)} {s : CacheState σ},
    (∀ entry ∈ s.cache.entries, entry.key ≠ key) → (∀ step ∈ steps, step ≠ .get key.1 key.2) →
    ∀ entry ∈ (s.after c steps).cache.entries, entry.key ≠ key
  | [], _, hnone, _ => hnone
  | step :: rest, s, hnone, hsteps => by
    obtain ⟨hstep, hrest⟩ := List.forall_mem_cons.mp hsteps
    refine after_without (s := s.step c step) (fun entry hentry => ?_) hrest
    rcases mem_step hentry with ⟨hold, -⟩ | ⟨hget, -⟩
    · exact hnone entry hold
    · rintro rfl
      exact hstep hget

/-! ### Clocks that go forward -/

variable (c) in
/-- In all states of a run. -/
def Always (P : CacheState σ → Prop) : List (CacheStep σ) → CacheState σ → Prop
  | [], s => P s
  | step :: rest, s => P s ∧ Always P rest (s.step c step)

variable (c) in
/-- No step of a run sets the clock back. -/
def Forward : List (CacheStep σ) → CacheState σ → Prop
  | [], _ => True
  | step :: rest, s => ((s.step c step).now c).lt (s.now c) = false ∧ Forward rest (s.step c step)

theorem Always.head {P : CacheState σ → Prop} : ∀ {steps : List (CacheStep σ)} {s : CacheState σ},
    Always c P steps s → P s
  | [], _, h => h
  | _ :: _, _, h => h.1

theorem Always.last {P : CacheState σ → Prop} : ∀ {steps : List (CacheStep σ)} {s : CacheState σ},
    Always c P steps s → P (s.after c steps)
  | [], _, h => h
  | step :: _, s, h => Always.last (s := s.step c step) h.2

/-- Stored at this time or before, and not in a leap second. -/
def StoredBy (time : Instant) (entry : CacheEntry) : Prop :=
  time.lt entry.insertedAt = false ∧ entry.insertedAt.isLeap = false

/-- On a clock that goes forward, no entry is from the future. -/
theorem storedBy_after : ∀ {steps : List (CacheStep σ)} {s : CacheState σ},
    Forward c steps s → Always c (fun s => (s.now c).isLeap = false) steps s →
    (∀ entry ∈ s.cache.entries, StoredBy (s.now c) entry) →
    ∀ entry ∈ (s.after c steps).cache.entries, StoredBy ((s.after c steps).now c) entry
  | [], _, _, _, h => h
  | step :: rest, s, hforward, hleap, h => by
    refine storedBy_after (s := s.step c step) hforward.2 hleap.2 fun entry hentry => ?_
    rcases mem_step hentry with ⟨hold, -⟩ | ⟨-, -, -, htime, -⟩
    · obtain ⟨hpast, hentryLeap⟩ := h entry hold
      exact ⟨Instant.not_lt_trans hpast hforward.1, hentryLeap⟩
    · rw [StoredBy, htime]
      exact ⟨Instant.lt_eq_false_iff.mpr (Or.inr ⟨rfl, Nat.le_refl _⟩), hleap.2.head⟩

/-- While the repository holds a row, entries come to hold it, or are from before. -/
theorem holds_or_storedBy {key : String × String} {row : Option Subscriber} {time : Instant} :
    ∀ {steps : List (CacheStep σ)} {s : CacheState σ},
    Always c (fun s => ∀ found, s.stored c key.1 key.2 = .ok found → found = row) steps s →
    (∀ entry ∈ s.cache.entries, entry.key = key → some entry.subscriber = row ∨
      StoredBy time entry) →
    ∀ entry ∈ (s.after c steps).cache.entries, entry.key = key → some entry.subscriber = row ∨
      StoredBy time entry
  | [], _, _, h => h
  | step :: rest, s, hrow, h => by
    refine holds_or_storedBy (s := s.step c step) hrow.2 fun entry hentry hkey => ?_
    rcases mem_step hentry with ⟨hold, -⟩ | ⟨-, hstored, -⟩
    · exact h entry hold hkey
    · rw [hkey] at hstored
      exact Or.inl (hrow.1 _ hstored)

/-- A row that has been there for a whole time to live is what a lookup finds, if the clock went
forward until it came and no leap second was read until then or is read now. -/
theorem get_of_elapsed {before since : List (CacheStep σ)} {environmentId subscriberId : String}
    {row found : Option Subscriber} {t : CacheState σ}
    (ht : t = (s.after c before).after c since) (hsound : t.Sound)
    (hstored : ∀ entry ∈ s.cache.entries, StoredBy (s.now c) entry)
    (hforward : Forward c before s)
    (hleap : Always c (fun s => (s.now c).isLeap = false) before s)
    (hnow : (t.now c).isLeap = false)
    (hrow : Always c (fun s => ∀ found, s.stored c environmentId subscriberId = .ok found →
      found = row) since (s.after c before))
    (helapsed : t.cache.ttl ≤ (t.now c).since ((s.after c before).now c))
    (hget : (get c environmentId subscriberId t).1 = .ok found) : found = row := by
  subst ht
  have hbefore := storedBy_after hforward hleap hstored
  have hentries : ∀ entry ∈ ((s.after c before).after c since).cache.entries,
      entry.key = (environmentId, subscriberId) →
        some entry.subscriber = row ∨ StoredBy ((s.after c before).now c) entry :=
    holds_or_storedBy hrow fun entry hentry _ => Or.inr (hbefore entry hentry)
  have hserves := hsound.serves (c := c) environmentId subscriberId
  by_cases hyoung : ((s.after c before).after c since).HasYoung c environmentId subscriberId
  · obtain ⟨entry, hentry, hkey, hage⟩ := hyoung
    rw [hserves.of_young entry hentry hkey hage] at hget
    cases hget
    rcases hentries entry hentry hkey with hsame | ⟨hpast, hentryLeap⟩
    · exact hsame
    · have hle := Instant.since_le_since hnow hentryLeap hleap.last hpast
      omega
  · rw [(hserves.of_not_young hyoung).1] at hget
    exact hrow.last found hget

/-- At any moment of any run that begins with an empty cache: each entry is what the last successful
call of the repository found for its key, and lookups are served from young entries and by the
repository otherwise. A key that was invalidated is fetched when it is looked up again. A row that
has been there for a whole time to live is what a lookup finds, if the clock went forward until it
came and no leap second was read until then or is read now. -/
theorem cache_fresh (c : Collaborators σ) (world : σ) (ttlMs capacity : Nat) :
    (∀ steps, ((start world ttlMs capacity).after c steps).Sound ∧
      ∀ environmentId subscriberId,
        ((start world ttlMs capacity).after c steps).Serves c environmentId subscriberId) ∧
    (∀ steps environmentId subscriberId between,
      (∀ step ∈ between, step ≠ .get environmentId subscriberId) →
      let s := (start world ttlMs capacity).after c
        (steps ++ .invalidate environmentId subscriberId :: between)
      (get c environmentId subscriberId s).2.fetches ≠ s.fetches) ∧
    ∀ before since environmentId subscriberId row,
      let updated := (start world ttlMs capacity).after c before
      let s := updated.after c since
      Forward c before (start world ttlMs capacity) →
      Always c (fun s => (s.now c).isLeap = false) before (start world ttlMs capacity) →
      (s.now c).isLeap = false →
      Always c (fun s => ∀ found, s.stored c environmentId subscriberId = .ok found → found = row)
        since updated →
      (ttlMs : Int) * 1000000 ≤ (s.now c).since (updated.now c) →
      ∀ found, (get c environmentId subscriberId s).1 = .ok found → found = row := by
  have hsound (steps : List (CacheStep σ)) : ((start world ttlMs capacity).after c steps).Sound :=
    after_induction (fun _ step h => h.step step) steps (sound_start world ttlMs capacity)
  refine ⟨fun steps => ⟨hsound steps, fun _ _ => (hsound steps).serves _ _⟩, ?_, ?_⟩
  · intro steps environmentId subscriberId between hbetween s hunasked
    obtain ⟨entry, hentry, hkey, -⟩ :=
      ((hsound _).serves (c := c) environmentId subscriberId).unasked_iff.mp hunasked
    have hnone : ∀ entry ∈ (((start world ttlMs capacity).after c steps).step c
        (.invalidate environmentId subscriberId)).cache.entries,
        entry.key ≠ (environmentId, subscriberId) :=
      fun _ h => (SubscriberCache.mem_invalidate.mp h).2
    rw [after_append] at hentry
    exact after_without hnone hbetween entry hentry hkey
  · intro before since environmentId subscriberId row updated s hforward hleap hnow hrow helapsed
      found hget
    have hempty : ∀ entry ∈ (start world ttlMs capacity).cache.entries,
        StoredBy ((start world ttlMs capacity).now c) entry := fun _ h => (nomatch h)
    refine get_of_elapsed rfl ?_ hempty hforward hleap hnow hrow ?_ hget
    · rw [← after_append]
      exact hsound (before ++ since)
    · rw [SubscriberCache.ttl, after_ttlMs, after_ttlMs]
      exact helapsed

end CacheState

end

/-! ### A leap second -/

namespace CacheState

/-- A subscriber who is offline, a tenth of a second before a minute ends. -/
def minuteEnds : World :=
  { store := Store.ofRows [.subscriber "env-1" { id := "sub-1", isOnline := some false }]
    now := ⟨1709294459, 900000000⟩ }

/-- The subscriber is looked up, and then goes online at this time. -/
def goesOnline (time : Instant) : List (CacheStep World) :=
  [.get "env-1" "sub-1", .change fun world => { world with
    store := world.store.insert (.subscriber "env-1" { id := "sub-1", isOnline := some true })
    now := time }]

def clockReads (time : Instant) : List (CacheStep World) :=
  [.change fun world => { world with now := time }]

/-- The subscriber is looked up. -/
def lookedUp : CacheState World :=
  (start minuteEnds 1000 10).after World.collaborators [.get "env-1" "sub-1"]

/-- The subscriber is looked up and then invalidated. -/
def invalidated : CacheState World :=
  (start minuteEnds 1000 10).after World.collaborators
    [.get "env-1" "sub-1", .invalidate "env-1" "sub-1"]

/-- A lookup before the minute ends leaves an entry that the next one is served from, unless the key
is invalidated first. The subscriber goes online in the next minute, and is found so one second
later. -/
theorem cache_fresh_nextMinute :
    (lastFetch? lookedUp.fetches ("env-1", "sub-1")
        = some ⟨("env-1", "sub-1"), .ok (some { id := "sub-1", isOnline := some false }),
          ⟨1709294459, 900000000⟩⟩ ∧
      get World.collaborators "env-1" "sub-1" lookedUp
        = (.ok (some { id := "sub-1", isOnline := some false }), lookedUp)) ∧
    (get World.collaborators "env-1" "sub-1" invalidated).2.fetches ≠ invalidated.fetches ∧
    let updated := (start minuteEnds 1000 10).after World.collaborators (goesOnline ⟨1709294460, 0⟩)
    let s := updated.after World.collaborators (clockReads ⟨1709294461, 0⟩)
    ∃ found, (get World.collaborators "env-1" "sub-1" s).1 = .ok found ∧
      found = some { id := "sub-1", isOnline := some true } := by
  obtain ⟨hmoment, hrefetch, helapsed⟩ := cache_fresh World.collaborators minuteEnds 1000 10
  refine ⟨?_, ?_, ?_⟩
  · obtain ⟨hsound, hserves⟩ := hmoment [.get "env-1" "sub-1"]
    have hentry : (⟨("env-1", "sub-1"), { id := "sub-1", isOnline := some false },
        ⟨1709294459, 900000000⟩⟩ : CacheEntry) ∈ lookedUp.cache.entries :=
      List.mem_singleton_self _
    exact ⟨hsound.entries _ hentry, (hserves _ _).of_young _ hentry rfl (by decide)⟩
  · exact hrefetch [.get "env-1" "sub-1"] "env-1" "sub-1" [] fun _ h => nomatch h
  · exact ⟨_, rfl, helapsed (goesOnline ⟨1709294460, 0⟩) (clockReads ⟨1709294461, 0⟩) "env-1"
      "sub-1" _ ⟨rfl, rfl, trivial⟩ ⟨rfl, rfl, rfl⟩ rfl
      ⟨fun _ h => (Except.ok.inj h).symm, fun _ h => (Except.ok.inj h).symm⟩ (by decide) _ rfl⟩

/-- The subscriber goes online in the leap second at the end of the minute. One second later a
lookup does not find that yet, although the clock always went forward. -/
theorem stale_after_leapSecond :
    ¬ ∀ before since environmentId subscriberId row,
      let updated := (start minuteEnds 1000 10).after World.collaborators before
      let s := updated.after World.collaborators since
      Forward World.collaborators (before ++ since) (start minuteEnds 1000 10) →
      Always World.collaborators (fun s => ∀ found,
        s.stored World.collaborators environmentId subscriberId = .ok found → found = row)
        since updated →
      1000 * 1000000 ≤ (s.now World.collaborators).since (updated.now World.collaborators) →
      ∀ found, (get World.collaborators environmentId subscriberId s).1 = .ok found →
        found = row := by
  intro h
  have hsame : some { id := "sub-1", isOnline := some false }
      = some ({ id := "sub-1", isOnline := some true } : Subscriber) :=
    h (goesOnline ⟨1709294459, 1000000000⟩) (clockReads ⟨1709294460, 0⟩) "env-1" "sub-1" _
      ⟨rfl, rfl, rfl, trivial⟩
      ⟨fun _ h => (Except.ok.inj h).symm, fun _ h => (Except.ok.inj h).symm⟩ (by decide) _ rfl
  cases hsame

end CacheState

end DeliveryGate
