import DeliveryGate.Evaluation.Context
import DeliveryGate.Failure
import DeliveryGate.Settings
import DeliveryGate.Store.Memory
import DeliveryGate.Store.SubscriberCache

/-!
# Collaborators

An evaluation asks others for rows, calls webhooks, reads the clock and leaves audit entries. `Run`
is a computation that changes a state and may fail; what it did to the state before it failed stays.
`Collaborators` is everything an evaluation may call, over a state of any type, so that any call may
depend on all calls before it.
-/

namespace DeliveryGate

/-- A computation that changes a state and may fail. -/
def Run (σ α : Type) : Type := σ → Except Failure α × σ

namespace Run

variable {σ τ α β : Type}

def ok (a : α) : Run σ α := fun s => (.ok a, s)

def fail (e : Failure) : Run σ α := fun s => (.error e, s)

/-- Go on with the result, unless there is none. -/
def andThen (x : Run σ α) (f : α → Run σ β) : Run σ β := fun s =>
  match x s with
  | (.ok a, s') => f a s'
  | (.error e, s') => (.error e, s')

instance : Monad (Run σ) where
  pure := ok
  bind := andThen

/-- The state as it is. -/
def get : Run σ σ := fun s => (.ok s, s)

/-- Change the state. -/
def modify (f : σ → σ) : Run σ Unit := fun s => (.ok (), f s)

/-- The value, or a failure where there is none. -/
def ofOption (e : Failure) : Option α → Run σ α
  | some a => ok a
  | none => fail e

/-- Go on whether or not the computation fails. -/
def attempt (x : Run σ α) : Run σ (Except Failure α) := fun s =>
  let (result, s') := x s
  (.ok result, s')

/-- A computation on a part of the state. -/
def onPart (part : τ → σ) (put : σ → τ → τ) (x : Run σ α) : Run τ α := fun t =>
  let (result, s') := x (part t)
  (result, put s' t)

@[simp] theorem pure_apply (a : α) (s : σ) : (pure a : Run σ α) s = (.ok a, s) := rfl

theorem bind_apply (x : Run σ α) (f : α → Run σ β) (s : σ) :
    (x >>= f) s = match x s with
      | (.ok a, s') => f a s'
      | (.error e, s') => (.error e, s') := rfl

theorem bind_of_ok {x : Run σ α} {f : α → Run σ β} {s s' : σ} {a : α} (h : x s = (.ok a, s')) :
    (x >>= f) s = f a s' := by rw [bind_apply, h]

theorem bind_of_error {x : Run σ α} {f : α → Run σ β} {s s' : σ} {e : Failure}
    (h : x s = (.error e, s')) : (x >>= f) s = (.error e, s') := by rw [bind_apply, h]

/-- To go on with a value does not change the state any more. -/
theorem bind_pure_snd (x : Run σ α) (f : α → β) (s : σ) :
    ((do let a ← x; return f a) s : Except Failure β × σ).2 = (x s).2 := by
  rw [bind_apply]
  rcases x s with ⟨_ | _, _⟩ <;> rfl

/-- A sequence succeeds if both of its parts do. -/
theorem bind_eq_ok_iff {x : Run σ α} {f : α → Run σ β} {s s' : σ} {b : β} :
    (x >>= f) s = (.ok b, s') ↔ ∃ a t, x s = (.ok a, t) ∧ f a t = (.ok b, s') := by
  constructor
  · intro h
    rw [bind_apply] at h
    rcases hx : x s with ⟨_ | a, t⟩ <;> rw [hx] at h
    · cases h
    · exact ⟨a, t, rfl, h⟩
  · rintro ⟨a, t, hx, hf⟩
    rw [bind_of_ok hx, hf]

/-- A sequence fails if its first part does, or the second part after the first. -/
theorem bind_eq_error_iff {x : Run σ α} {f : α → Run σ β} {s s' : σ} {e : Failure} :
    (x >>= f) s = (.error e, s') ↔
      x s = (.error e, s') ∨ ∃ a t, x s = (.ok a, t) ∧ f a t = (.error e, s') := by
  constructor
  · intro h
    rw [bind_apply] at h
    rcases hx : x s with ⟨_ | a, t⟩ <;> rw [hx] at h
    · cases h
      exact Or.inl rfl
    · exact Or.inr ⟨a, t, rfl, h⟩
  · rintro (hx | ⟨a, t, hx, hf⟩)
    · rw [bind_of_error hx]
    · rw [bind_of_ok hx, hf]

instance : LawfulMonad (Run σ) :=
  LawfulMonad.mk' (Run σ)
    (fun x => by
      funext s
      change (x >>= fun a => pure (id a)) s = x s
      rw [bind_apply]
      rcases x s with ⟨_ | _, _⟩ <;> rfl)
    (fun _ _ => rfl)
    (fun x f g => by
      funext s
      simp only [bind_apply]
      rcases x s with ⟨_ | _, _⟩ <;> rfl)

end Run

/-- A request to a webhook. -/
structure Request where
  url : String
  body : Json
  headers : List (String × String)

/-- Everything that an evaluation may call. -/
structure Collaborators (σ : Type) where
  findSubscriber : String → String → Run σ (Option Subscriber)
  findJob : Store.JobQuery → Run σ (Option Job)
  findMessage : String → String → Run σ (Option Message)
  countOpened : Store.OpenedQuery → Run σ Nat
  findEnvironment : String → String → Run σ (Option Environment)
  /-- Send a request and wait for the decoded answer. -/
  post : Request → Run σ Json
  /-- Keep an audit entry. -/
  keep : AuditEntry → Run σ Unit
  now : σ → Instant

/-- The state of an evaluator between its calls: that of its collaborators, and its cache. -/
structure EvaluatorState (σ : Type) where
  world : σ
  cache : SubscriberCache

namespace EvaluatorState

variable {σ α : Type}

/-- A call of a collaborator. -/
def call (x : Run σ α) : Run (EvaluatorState σ) α :=
  Run.onPart EvaluatorState.world (fun world state => { state with world }) x

/-- A call does to the world what the collaborator does, and nothing to the cache. -/
theorem call_eq_iff {x : Run σ α} {s t : EvaluatorState σ} {result : Except Failure α} :
    call x s = (result, t) ↔ x s.world = (result, t.world) ∧ t.cache = s.cache := by
  rw [call, Run.onPart]
  rcases hx : x s.world with ⟨r, w⟩
  obtain ⟨world, cache⟩ := t
  simp only [Prod.mk.injEq, EvaluatorState.mk.injEq]
  grind

end EvaluatorState

end DeliveryGate
