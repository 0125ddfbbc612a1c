import DeliveryGate.Proofs.Evaluation.Relation
import DeliveryGate.Proofs.Store.CacheLookup
import DeliveryGate.Scenario.World

/-!
# Collaborators that do not change

A constant clock, stores that stay as they are, and webhooks whose answer is a function of the
request: then an evaluation runs alike from all states that serve the subscriber of the context
alike (`Collaborators.Constant.alike`), so what a leaf answers does not depend on when it is asked.
The cache is the only state that a lookup changes, and it comes to serve what the lookup found.
-/

namespace DeliveryGate

variable {σ : Type}

/-- From all states of this kind the same result, and states of this kind again. -/
def Run.Constant {α : Type} (kind : σ → Prop) (x : Run σ α) : Prop :=
  Run.Related (fun s t => kind s ∧ kind t) x x

/-- Each call gives the same in all states of this kind and keeps them in it, and the clock stands
still. -/
structure Collaborators.Constant (c : Collaborators σ) (kind : σ → Prop) (now : Instant) :
    Prop where
  findSubscriber : ∀ environmentId subscriberId,
    Run.Constant kind (c.findSubscriber environmentId subscriberId)
  findJob : ∀ query, Run.Constant kind (c.findJob query)
  findMessage : ∀ environmentId jobId, Run.Constant kind (c.findMessage environmentId jobId)
  countOpened : ∀ query, Run.Constant kind (c.countOpened query)
  findEnvironment : ∀ environmentId organizationId,
    Run.Constant kind (c.findEnvironment environmentId organizationId)
  post : ∀ request, Run.Constant kind (c.post request)
  keep : ∀ entry s, kind s → kind (c.keep entry s).2
  now : ∀ s, kind s → c.now s = now

namespace SubscriberCache

/-- What a lookup comes to when a fetch would give this. -/
def answer (cache : SubscriberCache) (key : String × String) (now : Instant)
    (fetched : Except Failure (Option Subscriber)) : Except Failure (Option Subscriber) :=
  match cache.probe key now with
  | some subscriber => .ok (some subscriber)
  | none => fetched

/-- To keep what was fetched does not change what a lookup comes to. -/
theorem answer_commit (cache : SubscriberCache) (key : String × String) (now : Instant)
    (fetched : Option Subscriber) :
    (cache.commit key fetched now).answer key now (.ok fetched) = .ok fetched := by
  rw [answer, probe_commit]
  split
  · rename_i h
    split at h
    · cases h
    · rw [h]
  · rfl

end SubscriberCache

/-- The world is of this kind, and a lookup of the key comes to this answer. -/
structure EvaluatorState.Serving (kind : σ → Prop) (key : String × String) (now : Instant)
    (fetched answer : Except Failure (Option Subscriber)) (s : EvaluatorState σ) : Prop where
  world : kind s.world
  cache : s.cache.answer key now fetched = answer

theorem Run.Constant.call {α : Type} {kind : σ → Prop} {key : String × String} {now : Instant}
    {fetched answer : Except Failure (Option Subscriber)} {x : Run σ α} (hx : Run.Constant kind x) :
    Run.Constant (EvaluatorState.Serving kind key now fetched answer) (EvaluatorState.call x) := by
  rintro s t ⟨hs, ht⟩
  obtain ⟨hresult, hs', ht'⟩ := hx s.world t.world ⟨hs.world, ht.world⟩
  exact ⟨hresult, ⟨hs', hs.cache⟩, ⟨ht', ht.cache⟩⟩

namespace Collaborators.Constant

variable {c : Collaborators σ} {kind : σ → Prop} {now : Instant} (hc : c.Constant kind now)
  {fetched answer : Except Failure (Option Subscriber)}
include hc

/-- However often a subscriber is looked up, it comes to the same. -/
theorem lookupSubscriber_serves {environmentId subscriberId : String}
    (hfetch : ∀ s, kind s → (c.findSubscriber environmentId subscriberId s).1 = fetched)
    {s : EvaluatorState σ} (hs : s.Serving kind (environmentId, subscriberId) now fetched answer) :
    (lookupSubscriber c environmentId subscriberId s).1 = answer ∧
      (lookupSubscriber c environmentId subscriberId s).2.Serving kind
        (environmentId, subscriberId) now fetched answer := by
  have hcache := hs.cache
  have hfetched := hfetch s.world hs.world
  have hkind := (hc.findSubscriber environmentId subscriberId s.world s.world
    ⟨hs.world, hs.world⟩).2.1
  rw [SubscriberCache.answer, ← hc.now _ hs.world] at hcache
  rcases lookupSubscriber_cases c environmentId subscriberId s with
    ⟨subscriber, hprobe, hlookup⟩ | ⟨hprobe, ⟨e, w, hfind, hlookup⟩ | ⟨found, w, hfind, hlookup⟩⟩
  · rw [hprobe] at hcache
    rw [hlookup]
    exact ⟨hcache, hs⟩
  · rw [hprobe] at hcache
    rw [hfind] at hkind hfetched
    rw [hlookup]
    exact ⟨hfetched.trans hcache, hkind, hs.cache⟩
  · rw [hprobe] at hcache
    rw [hfind] at hkind hfetched
    rw [hlookup]
    refine ⟨hfetched.trans hcache, hkind, ?_⟩
    rw [hc.now w hkind, ← hfetched, SubscriberCache.answer_commit]
    exact hfetched.trans hcache

/-- An evaluation runs alike from all states that serve the subscriber of the context alike. -/
theorem alike (ctx : Context) (answer : Except Failure (Option Subscriber))
    (hfetch : ∀ s, kind s → (c.findSubscriber ctx.environmentId ctx.subscriberId s).1 = fetched) :
    Alike (fun s t =>
      s.Serving kind (ctx.environmentId, ctx.subscriberId) now fetched answer ∧
        t.Serving kind (ctx.environmentId, ctx.subscriberId) now fetched answer) c c ctx where
  subscriber := by
    rintro s t ⟨hs, ht⟩
    obtain ⟨hs₁, hs₂⟩ := hc.lookupSubscriber_serves hfetch hs
    obtain ⟨ht₁, ht₂⟩ := hc.lookupSubscriber_serves hfetch ht
    exact ⟨hs₁.trans ht₁.symm, hs₂, ht₂⟩
  job _ := (hc.findJob _).call
  message _ := (hc.findMessage _ _).call
  opened _ := (hc.countOpened _).call
  environment := (hc.findEnvironment _ _).call
  post request := (hc.post request).call
  keep := by
    rintro entry s t ⟨hs, ht⟩
    exact ⟨⟨hc.keep entry _ hs.world, hs.cache⟩, ⟨hc.keep entry _ ht.world, ht.cache⟩⟩
  now := by
    rintro s t ⟨hs, ht⟩
    rw [hc.now _ hs.world, hc.now _ ht.world]

end Collaborators.Constant

/-! ### Scripted worlds -/

namespace World

/-- The same world, whatever it wrote down. -/
def SameBut (world w : World) : Prop := ∃ journal, w = { world with journal }

variable (world : World)

theorem constant_ask {α : Type} (repository : Repository) (find : Store → α) :
    Run.Constant world.SameBut (ask repository find) := by
  rintro _ _ ⟨⟨journal, rfl⟩, ⟨journal', rfl⟩⟩
  exact ⟨rfl, ⟨_, rfl⟩, ⟨_, rfl⟩⟩

variable {world}

/-- A script of one reply at most gives the same reply to every call. -/
theorem nextReply_of_length_le_one (hscript : ∀ entry ∈ world.script, entry.2.length ≤ 1)
    (journal : Journal) (url : String) :
    { world with journal }.nextReply url =
      (((world.script.lookup url).getD []).getLast?).getD (.failure "connection refused") := by
  have hlength : ((world.script.lookup url).getD []).length ≤ 1 := by
    cases hlookup : world.script.lookup url with
    | none => simp
    | some replies =>
      obtain ⟨before, after, hsplit, -⟩ := List.lookup_eq_some_iff.mp hlookup
      exact hscript (url, replies) (by simp [hsplit])
  rw [nextReply]
  rcases hreplies : (world.script.lookup url).getD [] with _ | ⟨reply, _ | ⟨other, rest⟩⟩
  · rfl
  · cases journal.requests.countP fun request => request.url == url <;> rfl
  · rw [hreplies] at hlength
    simp at hlength

theorem constant_post (hscript : ∀ entry ∈ world.script, entry.2.length ≤ 1) (request : Request) :
    Run.Constant world.SameBut (post request) := by
  rintro _ _ ⟨⟨journal, rfl⟩, ⟨journal', rfl⟩⟩
  refine ⟨?_, ⟨_, rfl⟩, ⟨_, rfl⟩⟩
  have hreply := nextReply_of_length_le_one hscript
  simp only [post, hreply journal, hreply journal']

/-- A world in which every script has one reply at most does not change during an evaluation, except
for what it writes down. -/
theorem constant_collaborators (hscript : ∀ entry ∈ world.script, entry.2.length ≤ 1) :
    collaborators.Constant world.SameBut world.now where
  findSubscriber environmentId subscriberId :=
    constant_ask world .subscribers fun store => store.findSubscriber environmentId subscriberId
  findJob query := constant_ask world .jobs fun store => store.findJob query
  findMessage environmentId jobId :=
    constant_ask world .messages fun store => store.findMessage environmentId jobId
  countOpened query := constant_ask world .openedEvents fun store => store.countOpened query
  findEnvironment environmentId organizationId :=
    constant_ask world .environments fun store => store.findEnvironment environmentId organizationId
  post := constant_post hscript
  keep entry s := by
    rintro ⟨journal, rfl⟩
    simp only [collaborators, World.keep]
    split <;> exact ⟨_, rfl⟩
  now := by
    rintro _ ⟨journal, rfl⟩
    rfl

/-- One environment with a key, a subscriber who is online, and one webhook, which says yes. -/
def sample : World :=
  { store := Store.ofRows
      [.environment ⟨"env-1", "org-1", ["secret"]⟩,
        .subscriber "env-1" { id := "sub-1", isOnline := some true }]
    now := ⟨1709294400, 0⟩
    script := [("https://a.test", [.answer (.obj [("ok", .str "yes")])])] }

end World

/-- A job for the subscriber of the sample. -/
def Context.sample : Context :=
  { subscriber := none, payload := some (.obj [("plan", .str "pro")]), tenant := none
    environmentId := "env-1", organizationId := "org-1", subscriberId := "sub-1"
    transactionId := "tx-1", job := some ⟨"job-1", none, .email, none, none⟩ }

/-- The sample, before anyone was looked up. -/
def EvaluatorState.sample : EvaluatorState World := ⟨World.sample, SubscriberCache.empty 1000 10⟩

namespace Node

def asksPlan (expected : String) : Node := .leaf (.field .payload ⟨"plan", .equal, expected⟩)

def asksWebhook (url expected : String) : Node := .leaf (.webhook url ⟨"ok", .equal, expected⟩)

end Node

end DeliveryGate
