import DeliveryGate.Evaluation.LeafCheck
import DeliveryGate.Proofs.Store.CacheLookup
import Mathlib.Data.List.Induction

/-!
# Lookups side by side

Several lookups may be on their way through one cache at the same time. Each takes three steps (it
looks into the cache, fetches the row, and keeps what it fetched), and between these the steps of
other lookups, invalidations and changes of rows may come in any order, while the clock stands
still. Without other steps in between this is `lookupSubscriber` (`alone_eq_lookupSubscriber`).

To invalidate a key does not reach the lookups that are on their way. `answer_since_or_overtaken`
says what a lookup finds that starts after a row was changed and its key invalidated: the row as of
the change or later, unless a lookup that had fetched before the change keeps its row in between.
`stale_after_invalidate` is a run in which this happens.
-/

namespace DeliveryGate

/-- How far a lookup has come. -/
inductive Stage where
  /-- There was no fresh entry, so that the row is fetched next. -/
  | missed
  /-- This was fetched and is kept next. -/
  | fetched (found : Option Subscriber)
  | done (result : Except Failure (Option Subscriber))

/-- A lookup of a key. -/
structure Lookup where
  key : String × String
  stage : Stage

/-- A repository, a cache in front of it, and all lookups so far in the order in which they started.
-/
structure SharedCache where
  /-- What the repository answers at the moment. -/
  rows : String × String → Except Failure (Option Subscriber)
  cache : SubscriberCache
  lookups : List Lookup

/-- A step of a lookup, which is given by its place, or of someone else. -/
inductive SharedStep where
  | start (key : String × String)
  | fetch (i : Nat)
  | keep (i : Nat)
  | invalidate (key : String × String)
  | update (key : String × String) (row : Except Failure (Option Subscriber))

namespace Stage

/-- After a look into the cache. -/
def ofProbe : Option Subscriber → Stage
  | some subscriber => done (.ok (some subscriber))
  | none => missed

/-- After a fetch; one that fails ends the lookup. -/
def ofFetch : Except Failure (Option Subscriber) → Stage
  | .ok found => fetched found
  | .error e => done (.error e)

end Stage

namespace SharedCache

variable (now : Instant)

/-- The state after a step; a lookup that is at another stage does not take it. -/
def step (s : SharedCache) : SharedStep → SharedCache
  | .start key => { s with lookups := s.lookups ++ [⟨key, .ofProbe (s.cache.probe key now)⟩] }
  | .fetch i =>
    match s.lookups[i]? with
    | some ⟨key, .missed⟩ =>
      { s with lookups := s.lookups.set i ⟨key, .ofFetch (s.rows key)⟩ }
    | _ => s
  | .keep i =>
    match s.lookups[i]? with
    | some ⟨key, .fetched found⟩ =>
      { s with
        cache := s.cache.commit key found now
        lookups := s.lookups.set i ⟨key, .done (.ok found)⟩ }
    | _ => s
  | .invalidate key => { s with cache := s.cache.invalidate key }
  | .update key row => { s with rows := fun k => if k = key then row else s.rows k }

/-- The state after a sequence of steps. -/
def after (s : SharedCache) (steps : List SharedStep) : SharedCache := steps.foldl (step now) s

/-- At some moment of a run. -/
def Sometime (s : SharedCache) (steps : List SharedStep) (P : SharedCache → Prop) : Prop :=
  ∃ n, P (s.after now (steps.take n))

variable {now} {s : SharedCache} {key : String × String}

/-- A lookup that nobody disturbs is one call of `lookupSubscriber`. -/
theorem alone_eq_lookupSubscriber {σ : Type} {c : Collaborators σ} {world : σ}
    {environmentId subscriberId : String} (hnow : c.now world = now)
    (hfind : c.findSubscriber environmentId subscriberId world
      = (s.rows (environmentId, subscriberId), world)) :
    let i := s.lookups.length
    let t := s.after now [.start (environmentId, subscriberId), .fetch i, .keep i]
    let call := lookupSubscriber c environmentId subscriberId ⟨world, s.cache⟩
    t.lookups = s.lookups ++ [⟨(environmentId, subscriberId), .done call.1⟩] ∧
      t.cache = call.2.cache ∧ t.rows = s.rows ∧ call.2.world = world := by
  rcases lookupSubscriber_cases c environmentId subscriberId ⟨world, s.cache⟩ with
    ⟨subscriber, hprobe, hlookup⟩ | ⟨hprobe, ⟨e, w, hfail, hlookup⟩ | ⟨found, w, hrow, hlookup⟩⟩
  · rw [hnow] at hprobe
    simp [after, step, hprobe, hlookup, Stage.ofProbe]
  · obtain ⟨hresult, rfl⟩ := Prod.mk.inj (hfind.symm.trans hfail)
    rw [hnow] at hprobe
    simp [after, step, hprobe, hlookup, hresult, Stage.ofProbe, Stage.ofFetch]
  · obtain ⟨hresult, rfl⟩ := Prod.mk.inj (hfind.symm.trans hrow)
    rw [hnow] at hprobe
    simp [after, step, hprobe, hlookup, hresult, hnow, Stage.ofProbe, Stage.ofFetch]

/-! ### Moments of a run -/

theorem after_append (s : SharedCache) (steps more : List SharedStep) :
    s.after now (steps ++ more) = (s.after now steps).after now more := List.foldl_append

theorem after_concat (s : SharedCache) (steps : List SharedStep) (last : SharedStep) :
    s.after now (steps ++ [last]) = (s.after now steps).step now last := List.foldl_concat ..

theorem Sometime.last {steps : List SharedStep} {P : SharedCache → Prop}
    (h : P (s.after now steps)) : s.Sometime now steps P :=
  ⟨steps.length, by rwa [List.take_length]⟩

theorem Sometime.append {steps : List SharedStep} {P : SharedCache → Prop}
    (h : s.Sometime now steps P) (more : List SharedStep) : s.Sometime now (steps ++ more) P := by
  obtain ⟨n, hn⟩ := h
  refine ⟨min n steps.length, ?_⟩
  rwa [List.take_append_of_le_length (Nat.min_le_right ..), ← List.take_eq_take_min]

theorem Sometime.prepend {steps more : List SharedStep} {P : SharedCache → Prop}
    (h : (s.after now steps).Sometime now more P) : s.Sometime now (steps ++ more) P := by
  obtain ⟨n, hn⟩ := h
  refine ⟨steps.length + n, ?_⟩
  rwa [List.take_length_add_append, after_append]

/-! ### What a step does -/

/-- A lookup is where it was, or the step was its own. -/
theorem stage_step {i : Nat} {stage : Stage} {step : SharedStep}
    (h : (s.step now step).lookups[i]? = some ⟨key, stage⟩) :
    s.lookups[i]? = some ⟨key, stage⟩ ∨
      (step = .start key ∧ i = s.lookups.length ∧ stage = .ofProbe (s.cache.probe key now)) ∨
      (s.lookups[i]? = some ⟨key, .missed⟩ ∧ stage = .ofFetch (s.rows key)) ∨
      ∃ found, step = .keep i ∧ s.lookups[i]? = some ⟨key, .fetched found⟩ ∧
        stage = .done (.ok found) := by
  cases step with
  | start other =>
    rw [SharedCache.step, List.getElem?_append] at h
    split at h
    · exact Or.inl h
    · rename_i hlength
      rw [List.getElem?_singleton] at h
      split at h
      · cases h
        exact Or.inr (Or.inl ⟨rfl, by omega, rfl⟩)
      · cases h
  | fetch j =>
    rw [SharedCache.step] at h
    split at h
    · rename_i other hj
      by_cases hij : j = i
      · subst hij
        rw [List.getElem?_set_self', hj] at h
        cases h
        exact Or.inr (Or.inr (Or.inl ⟨hj, rfl⟩))
      · rw [List.getElem?_set_ne hij] at h
        exact Or.inl h
    · exact Or.inl h
  | keep j =>
    rw [SharedCache.step] at h
    split at h
    · rename_i other found hj
      by_cases hij : j = i
      · subst hij
        rw [List.getElem?_set_self', hj] at h
        cases h
        exact Or.inr (Or.inr (Or.inr ⟨found, rfl, hj, rfl⟩))
      · rw [List.getElem?_set_ne hij] at h
        exact Or.inl h
    · exact Or.inl h
  | invalidate other => exact Or.inl h
  | update other row => exact Or.inl h

/-- An entry was there already, or a lookup has just kept it. -/
theorem entry_step {entry : CacheEntry} {step : SharedStep}
    (h : entry ∈ (s.step now step).cache.entries) :
    entry ∈ s.cache.entries ∨
      ∃ i : Nat, s.lookups[i]? = some ⟨entry.key, .fetched (some entry.subscriber)⟩ ∧
        (s.step now step).lookups[i]? = some ⟨entry.key, .done (.ok (some entry.subscriber))⟩ := by
  cases step with
  | keep i =>
    rw [SharedCache.step] at h ⊢
    split at h
    · rename_i other found hi
      rcases SubscriberCache.mem_commit h with ⟨hold, -⟩ | ⟨subscriber, rfl, -, rfl⟩
      · exact Or.inl hold
      · refine Or.inr ⟨i, hi, ?_⟩
        rw [List.getElem?_set_self', hi]
        rfl
    · exact Or.inl h
  | fetch i =>
    rw [SharedCache.step] at h
    split at h <;> exact Or.inl h
  | start other => exact Or.inl h
  | invalidate other => exact Or.inl (SubscriberCache.mem_invalidate.mp h).1
  | update other row => exact Or.inl h

/-- A lookup that is done stays so. -/
theorem done_step {i : Nat} {result : Except Failure (Option Subscriber)} (step : SharedStep)
    (h : s.lookups[i]? = some ⟨key, .done result⟩) :
    (s.step now step).lookups[i]? = some ⟨key, .done result⟩ := by
  cases step <;> rw [SharedCache.step] <;> grind

/-! ### What lookups find -/

/-- What a lookup has fetched was the row at some moment, or it had been fetched before. -/
theorem sometime_or_fetched {i : Nat} {found : Option Subscriber} (steps : List SharedStep) :
    (s.after now steps).lookups[i]? = some ⟨key, .fetched found⟩ →
      s.Sometime now steps (fun t => t.rows key = .ok found) ∨
        s.lookups[i]? = some ⟨key, .fetched found⟩ := by
  induction steps using List.reverseRecOn with
  | nil => exact Or.inr
  | append_singleton steps last ih =>
    rw [after_concat]
    intro h
    rcases stage_step h with hold | ⟨-, -, hstage⟩ | ⟨-, hstage⟩ | ⟨other, -, -, hstage⟩
    · exact (ih hold).imp_left fun h => h.append [last]
    · cases hprobe : (s.after now steps).cache.probe key now <;> rw [hprobe] at hstage <;>
        cases hstage
    · cases hrow : (s.after now steps).rows key with
      | error e =>
        rw [hrow] at hstage
        cases hstage
      | ok row =>
        rw [hrow] at hstage
        cases hstage
        exact Or.inl (Sometime.append (Sometime.last hrow) [last])
    · cases hstage

/-- A lookup that had fetched this before a change, and had not yet kept it when the key was
invalidated. -/
structure Overtaken (changed invalidated : SharedCache) (key : String × String) (i : Nat)
    (found : Option Subscriber) : Prop where
  before : changed.lookups[i]? = some ⟨key, .fetched found⟩
  still : invalidated.lookups[i]? = some ⟨key, .fetched found⟩

/-- After a row was changed and its key invalidated, an entry of the key holds the row as of some
moment since the change, or what an overtaken lookup has kept. -/
theorem entry_since_or_overtaken {changed invalidated : SharedCache} {between : List SharedStep}
    (hinvalidated : invalidated = changed.after now (between ++ [.invalidate key]))
    {entry : CacheEntry} (hkey : entry.key = key) (later : List SharedStep) :
    entry ∈ (invalidated.after now later).cache.entries →
      changed.Sometime now (between ++ .invalidate key :: later)
        (fun t => t.rows key = .ok (some entry.subscriber)) ∨
      ∃ i, Overtaken changed invalidated key i (some entry.subscriber) ∧
        (invalidated.after now later).lookups[i]?
          = some ⟨key, .done (.ok (some entry.subscriber))⟩ := by
  have hrun : ∀ later, changed.after now (between ++ .invalidate key :: later)
      = invalidated.after now later := by
    intro later
    rw [List.append_cons, after_append, hinvalidated]
  induction later using List.reverseRecOn with
  | nil =>
    intro h
    rw [hinvalidated, after_append] at h
    exact absurd hkey (SubscriberCache.mem_invalidate.mp h).2
  | append_singleton later last ih =>
    rw [after_concat, ← List.cons_append, ← List.append_assoc]
    intro h
    rcases entry_step h with hold | ⟨i, hfetched, hdone⟩
    · rcases ih hold with hsince | ⟨i, hovertaken, hdone⟩
      · exact Or.inl (hsince.append [last])
      · exact Or.inr ⟨i, hovertaken, done_step last hdone⟩
    · rw [hkey] at hfetched hdone
      rcases sometime_or_fetched later hfetched with hsince | hstill
      · rw [hinvalidated] at hsince
        refine Or.inl (Sometime.append ?_ [last])
        rw [List.append_cons]
        exact hsince.prepend
      · rw [← hrun] at hfetched
        rcases sometime_or_fetched _ hfetched with hsince | hbefore
        · exact Or.inl (hsince.append [last])
        · exact Or.inr ⟨i, ⟨hbefore, hstill⟩, hdone⟩

/-- Whatever steps lookups, invalidations and changes of rows take in between: a lookup that starts
after a row was changed and its key invalidated finds the row as of some moment since the change,
unless a lookup that had fetched before the change keeps its row after the key was invalidated and
before this one starts. -/
theorem answer_since_or_overtaken (now : Instant) (s : SharedCache)
    (before between later : List SharedStep) (key : String × String)
    (row : Except Failure (Option Subscriber)) :
    let changed := s.after now (before ++ [.update key row])
    let invalidated := changed.after now (between ++ [.invalidate key])
    ∀ j result, invalidated.lookups.length ≤ j →
      (invalidated.after now later).lookups[j]? = some ⟨key, .done result⟩ →
      changed.Sometime now (between ++ .invalidate key :: later) (fun t => t.rows key = result) ∨
      ∃ i found, result = .ok found ∧ Overtaken changed invalidated key i found ∧
        invalidated.Sometime now later fun t =>
          t.lookups.length ≤ j ∧ t.lookups[i]? = some ⟨key, .done (.ok found)⟩ := by
  intro changed invalidated j result hj
  have hrun : ∀ later, changed.after now (between ++ .invalidate key :: later)
      = invalidated.after now later := by
    intro later
    rw [List.append_cons, after_append]
  have hnone : invalidated.lookups[j]? = none := List.getElem?_eq_none hj
  induction later using List.reverseRecOn generalizing result with
  | nil =>
    intro h
    cases hnone.symm.trans h
  | append_singleton later last ih =>
    rw [after_concat, ← List.cons_append, ← List.append_assoc]
    intro h
    rcases stage_step h with
      hold | ⟨-, hlength, hstage⟩ | ⟨-, hstage⟩ | ⟨found, -, hfetched, hstage⟩
    · rcases ih result hold with hsince | ⟨i, found, hresult, hovertaken, hkept⟩
      · exact Or.inl (hsince.append [last])
      · exact Or.inr ⟨i, found, hresult, hovertaken, hkept.append [last]⟩
    · -- it starts with a fresh entry, which is served
      cases hprobe : (invalidated.after now later).cache.probe key now with
      | none =>
        rw [hprobe] at hstage
        cases hstage
      | some subscriber =>
        rw [hprobe] at hstage
        cases hstage
        obtain ⟨entry, hfind, -, rfl⟩ := SubscriberCache.probe_eq_some_iff.mp hprobe
        obtain ⟨hmem, hkey⟩ := SubscriberCache.mem_of_find? hfind
        rcases entry_since_or_overtaken rfl hkey later hmem with hsince | ⟨i, hovertaken, hdone⟩
        · exact Or.inl (hsince.append [last])
        · exact Or.inr ⟨i, _, rfl, hovertaken,
            Sometime.append (Sometime.last ⟨Nat.le_of_eq hlength.symm, hdone⟩) [last]⟩
    · -- its fetch fails
      cases hrow : (invalidated.after now later).rows key with
      | ok found =>
        rw [hrow] at hstage
        cases hstage
      | error e =>
        rw [hrow] at hstage
        cases hstage
        rw [← hrun] at hrow
        exact Or.inl (Sometime.append (Sometime.last hrow) [last])
    · -- it keeps what it has fetched since it started
      cases hstage
      rcases sometime_or_fetched later hfetched with hsince | hstill
      · refine Or.inl (Sometime.append ?_ [last])
        rw [List.append_cons]
        exact hsince.prepend
      · cases hnone.symm.trans hstill

/-- A subscriber who is online, or not. -/
def presence (isOnline : Bool) : Subscriber := { id := "sub-1", isOnline }

/-- A repository that finds the subscriber offline, and a cache in which nobody was looked up. -/
def offline : SharedCache :=
  ⟨fun _ => .ok (some (presence false)), SubscriberCache.empty 30000 10, []⟩

/-- A lookup has fetched its row and keeps it next. -/
def onItsWay : List SharedStep := [.start ("env-1", "sub-1"), .fetch 0]

/-- The lookup keeps its row, and another one starts. -/
def keepsThenStarts : List SharedStep := [.keep 0, .start ("env-1", "sub-1")]

/-- While the lookup is on its way the subscriber goes online and the key is invalidated. The other
one still finds the subscriber offline, and this is because of the one that was overtaken. -/
theorem answer_since_or_overtaken_onItsWay :
    let changed := offline.after ⟨1709294400, 0⟩
      (onItsWay ++ [.update ("env-1", "sub-1") (.ok (some (presence true)))])
    let invalidated := changed.after ⟨1709294400, 0⟩ ([] ++ [.invalidate ("env-1", "sub-1")])
    invalidated.lookups.length ≤ 1 ∧
      (invalidated.after ⟨1709294400, 0⟩ keepsThenStarts).lookups[1]?
        = some ⟨("env-1", "sub-1"), .done (.ok (some (presence false)))⟩ ∧
      ∃ i, Overtaken changed invalidated ("env-1", "sub-1") i (some (presence false)) := by
  refine ⟨Nat.le_refl 1, rfl, ?_⟩
  rcases answer_since_or_overtaken ⟨1709294400, 0⟩ offline onItsWay [] keepsThenStarts
    ("env-1", "sub-1") (.ok (some (presence true))) 1 _ (Nat.le_refl 1) rfl with
    ⟨n, hn⟩ | ⟨i, found, hfound, hovertaken, -⟩
  · rcases n with _ | _ | _ | _ | n <;> cases hn
  · cases hfound
    exact ⟨i, hovertaken⟩

/-- So it is not true that a lookup that starts after the key was invalidated always finds the row
as of some moment since the change. -/
theorem stale_after_invalidate :
    ¬ ∀ (before between later : List SharedStep) (key : String × String)
        (row : Except Failure (Option Subscriber)),
      let changed := offline.after ⟨1709294400, 0⟩ (before ++ [.update key row])
      let invalidated := changed.after ⟨1709294400, 0⟩ (between ++ [.invalidate key])
      ∀ j result, invalidated.lookups.length ≤ j →
        (invalidated.after ⟨1709294400, 0⟩ later).lookups[j]? = some ⟨key, .done result⟩ →
        changed.Sometime ⟨1709294400, 0⟩ (between ++ .invalidate key :: later)
          (fun t => t.rows key = result) := by
  intro h
  obtain ⟨n, hn⟩ := h onItsWay [] keepsThenStarts ("env-1", "sub-1") (.ok (some (presence true))) 1
    (.ok (some (presence false))) (Nat.le_refl 1) rfl
  rcases n with _ | _ | _ | _ | n <;> cases hn

end SharedCache

end DeliveryGate
