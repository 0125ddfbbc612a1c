import DeliveryGate.Proofs.Evaluation.Backed

/-!
# Webhook leaves

What a webhook leaf can do is said once (`checkWebhook_cases`): a lookup fails, or the store has no
key to sign with, and then nothing is sent; or one request goes out, signed with the first key of
the environment (`Request.SignedFor`).
-/

namespace DeliveryGate

variable {σ : Type}

/-! ### What is sent -/

/-- The signature of the requests for a context, if the store has a key for them. -/
def Store.signature (store : Store) (ctx : Context) : Except Failure String :=
  match store.findEnvironment ctx.environmentId ctx.organizationId with
  | none => .error (.environmentNotFound ctx.environmentId)
  | some environment =>
    match environment.apiKeys with
    | [] => .error (.missingApiKey ctx.environmentId)
    | key :: _ => .ok (Signature.ofEnvironment key ctx.environmentId)

namespace Store

variable {store : Store} {ctx : Context} {environment : Environment}

theorem findEnvironment_eq_some_iff {environmentId organizationId : String} :
    store.findEnvironment environmentId organizationId = some environment ↔
      store.environments.lookup environmentId = some environment ∧
        environment.organizationId = organizationId := by
  rw [findEnvironment, Option.filter_eq_some_iff, beq_iff_eq]

theorem signature_of_foreign (hforeign : ∀ environment,
      store.environments.lookup ctx.environmentId = some environment →
      environment.organizationId ≠ ctx.organizationId) :
    store.signature ctx = .error (.environmentNotFound ctx.environmentId) := by
  rw [signature]
  cases hfound : store.findEnvironment ctx.environmentId ctx.organizationId with
  | none => rfl
  | some environment =>
    obtain ⟨hrow, horganization⟩ := findEnvironment_eq_some_iff.mp hfound
    exact absurd horganization (hforeign environment hrow)

theorem signature_of_keyless (hrow : store.environments.lookup ctx.environmentId = some environment)
    (horganization : environment.organizationId = ctx.organizationId)
    (hkeys : environment.apiKeys = []) :
    store.signature ctx = .error (.missingApiKey ctx.environmentId) := by
  rw [signature, findEnvironment_eq_some_iff.mpr ⟨hrow, horganization⟩]
  dsimp only
  rw [hkeys]

theorem signature_eq_ok_iff {text : String} :
    store.signature ctx = .ok text ↔
      ∃ environment key others, store.environments.lookup ctx.environmentId = some environment ∧
        environment.organizationId = ctx.organizationId ∧ environment.apiKeys = key :: others ∧
        text = Signature.ofEnvironment key ctx.environmentId := by
  constructor
  · intro h
    rw [signature] at h
    cases hfound : store.findEnvironment ctx.environmentId ctx.organizationId with
    | none => simp only [hfound, reduceCtorEq] at h
    | some environment =>
      obtain ⟨hrow, horganization⟩ := findEnvironment_eq_some_iff.mp hfound
      cases hkeys : environment.apiKeys with
      | nil => simp only [hfound, hkeys, reduceCtorEq] at h
      | cons key others =>
        simp only [hfound, hkeys, Except.ok.injEq] at h
        exact ⟨environment, key, others, hrow, horganization, hkeys, h.symm⟩
  · rintro ⟨environment, key, others, hrow, horganization, hkeys, rfl⟩
    rw [signature, findEnvironment_eq_some_iff.mpr ⟨hrow, horganization⟩]
    dsimp only
    rw [hkeys]

end Store

/-- The keys of a body: subscriber and payload, for a job its channel, and its provider if there is
one. -/
def Context.IsBodyKey (ctx : Context) (key : String) : Prop :=
  key = "subscriber" ∨ key = "payload" ∨ (key = "channel" ∧ ctx.job.isSome) ∨
    (key = "providerId" ∧ ∃ job providerId, ctx.job = some job ∧ job.providerId = some providerId)

/-- An object has just these keys, each once. -/
def Json.HasKeys (value : Json) (isKey : String → Prop) : Prop :=
  ∃ fields, value = .obj fields ∧ (fields.map Prod.fst).Nodup ∧
    ∀ key, key ∈ fields.map Prod.fst ↔ isKey key

/-- A request for a context goes to this url, its only header is a signature, and its body has the
keys of the context. -/
structure Request.SignedFor (store : Store) (header : String) (ctx : Context) (url : String)
    (request : Request) : Prop where
  target : request.url = url
  /-- The store has the row of the environment, it belongs to the organization of the context, and
  the first of its keys signs. -/
  signed : ∃ environment key others,
    store.environments.lookup ctx.environmentId = some environment ∧
      environment.organizationId = ctx.organizationId ∧ environment.apiKeys = key :: others ∧
      request.headers = [(header,
        Hex.encode (Signature.hmac key.toUTF8.toList ctx.environmentId.toUTF8.toList))]
  body : request.body.HasKeys ctx.IsBodyKey

theorem requestBody_hasKeys (ctx : Context) (subscriber : Json) :
    (requestBody ctx subscriber).HasKeys ctx.IsBodyKey := by
  rw [requestBody]
  rcases hjob : ctx.job with _ | ⟨id, parentId, channel, _ | providerId, payload⟩
  all_goals
    refine ⟨_, rfl, by simp [Json.setField], fun key => ?_⟩
    rw [Context.IsBodyKey, hjob]
    grind [Json.setField]

theorem Request.signedFor_of_signature {store : Store} {header : String} {ctx : Context}
    {url signature : String} (h : store.signature ctx = .ok signature) (subscriber : Json) :
    Request.SignedFor store header ctx url
      ⟨url, requestBody ctx subscriber, [(header, signature)]⟩ where
  target := rfl
  signed := by
    obtain ⟨environment, key, others, hrow, horganization, hkeys, rfl⟩ :=
      Store.signature_eq_ok_iff.mp h
    exact ⟨environment, key, others, hrow, horganization, hkeys, rfl⟩
  body := requestBody_hasKeys ctx subscriber

/-! ### What a webhook leaf can do -/

section

variable (c : Collaborators σ) (store : Store) (header : String) (ctx : Context) (vars : Variables)

/-- To sign sends nothing. It fails if the lookup of the environment does, and else it is up to the
store. -/
theorem requestSignature_cases (s : EvaluatorState (σ × List Call)) :
    ∃ t, t.requests = s.requests ∧
      ((∃ e, (c.findEnvironment ctx.environmentId ctx.organizationId s.world.1).1 = .error e ∧
        EvaluatorState.call (requestSignature (c.over store).recorded ctx) s = (.error e, t)) ∨
      EvaluatorState.call (requestSignature (c.over store).recorded ctx) s
        = (store.signature ctx, t)) := by
  rcases hrow : c.findEnvironment ctx.environmentId ctx.organizationId s.world.1 with ⟨result, w⟩
  have hfind : (c.over store).recorded.findEnvironment ctx.environmentId ctx.organizationId s.world
      = (result.map fun _ => store.findEnvironment ctx.environmentId ctx.organizationId,
        (w, s.world.2 ++ [.findEnvironment ctx.environmentId ctx.organizationId])) := by
    rw [← (Prod.mk.inj hrow).1, ← (Prod.mk.inj hrow).2]
    exact Run.answering_recorded ..
  have hresult : ∀ {result w}, requestSignature (c.over store).recorded ctx s.world = (result, w) →
      EvaluatorState.call (requestSignature (c.over store).recorded ctx) s
        = (result, ⟨w, s.cache⟩) := fun h => EvaluatorState.call_eq_iff.mpr ⟨h, rfl⟩
  refine ⟨⟨(w, s.world.2 ++ [.findEnvironment ctx.environmentId ctx.organizationId]), s.cache⟩,
    filterMap_concat_unseen rfl s.world.2 rfl, ?_⟩
  cases result with
  | error e => exact Or.inl ⟨e, rfl, hresult (Run.bind_of_error hfind)⟩
  | ok row =>
    refine Or.inr (hresult ?_)
    rw [requestSignature, Run.bind_of_ok hfind, Store.signature]
    cases store.findEnvironment ctx.environmentId ctx.organizationId with
    | none => rfl
    | some environment =>
      rw [Run.bind_of_ok (show Run.ofOption _ (some environment) _ = (.ok environment, _) from rfl)]
      dsimp only
      cases environment.apiKeys <;> rfl

/-- A webhook leaf fails before anything is sent, because of a lookup or because there is nothing to
sign with; or it sends one request. -/
theorem checkWebhook_cases (url : String) (test : FieldTest) (s : EvaluatorState (σ × List Call)) :
    (∃ e, (checkLeaf (c.over store).recorded header ctx vars (.webhook url test) s).1 = .error e ∧
      (checkLeaf (c.over store).recorded header ctx vars (.webhook url test) s).2.requests
        = s.requests ∧
      ((requestSubscriber (c.over store).recorded ctx vars s).1 = .error e ∨
        (c.findEnvironment ctx.environmentId ctx.organizationId
          (requestSubscriber (c.over store).recorded ctx vars s).2.world.1).1 = .error e ∨
        store.signature ctx = .error e)) ∨
    ∃ subscriber signature,
      (requestSubscriber (c.over store).recorded ctx vars s).1 = .ok subscriber ∧
      store.signature ctx = .ok signature ∧
      (checkLeaf (c.over store).recorded header ctx vars (.webhook url test) s).2.requests
        = s.requests ++ [⟨url, requestBody ctx subscriber, [(header, signature)]⟩] := by
  have hrequests : (requestSubscriber (c.over store).recorded ctx vars s).2.requests = s.requests :=
    requestSubscriber_requests s
  rw [checkLeaf, checkWebhook]
  -- the three stages in turn; only the last one reaches the log
  rcases hsubscriber : requestSubscriber (c.over store).recorded ctx vars s with
    ⟨e | subscriber, s₁⟩ <;> rw [hsubscriber] at hrequests
  · rw [Run.bind_of_error hsubscriber]
    exact Or.inl ⟨e, rfl, hrequests, Or.inl rfl⟩
  rw [Run.bind_of_ok hsubscriber]
  obtain ⟨s₂, hsame, ⟨e, hfind, hcall⟩ | hcall⟩ := requestSignature_cases c store ctx s₁
  · rw [Run.bind_of_error hcall]
    exact Or.inl ⟨e, rfl, hsame.trans hrequests, Or.inr (Or.inl hfind)⟩
  cases hsignature : store.signature ctx with
  | error e =>
    rw [hsignature] at hcall
    rw [Run.bind_of_error hcall]
    exact Or.inl ⟨e, rfl, hsame.trans hrequests, Or.inr (Or.inr rfl)⟩
  | ok signature =>
    rw [hsignature] at hcall
    rw [Run.bind_of_ok hcall, Run.bind_pure_snd, ← hrequests, ← hsame]
    exact Or.inr ⟨subscriber, signature, rfl, rfl, List.filterMap_append⟩

variable {c header ctx vars} in
/-- To sign asks for the environment, once. -/
theorem requestSignature_ok {s t : EvaluatorState (σ × List Call)} {text : String}
    (h : EvaluatorState.call (requestSignature c.recorded ctx) s = (.ok text, t)) :
    t.cache = s.cache ∧
      t.world.2 = s.world.2 ++ [.findEnvironment ctx.environmentId ctx.organizationId] := by
  obtain ⟨h, hcache⟩ := EvaluatorState.call_eq_iff.mp h
  obtain ⟨found, w, hfind, h⟩ := Run.bind_eq_ok_iff.mp h
  obtain ⟨-, rfl⟩ := Prod.mk.inj hfind
  refine ⟨hcache, ?_⟩
  rcases found with _ | ⟨id, organizationId, _ | ⟨key, others⟩⟩
  · cases h
  · cases h
  · exact congrArg Prod.snd (Prod.mk.inj h).2.symm

variable {c header ctx vars} in
/-- A webhook leaf that succeeds has looked for the subscriber and then sent one signed request. -/
theorem checkWebhook_ok {url : String} {test : FieldTest} {condition : Condition}
    {s t : EvaluatorState (σ × List Call)}
    (h : checkLeaf c.recorded header ctx vars (.webhook url test) s = (.ok condition, t)) :
    ∃ subscriber signature s₁, requestSubscriber c.recorded ctx vars s = (.ok subscriber, s₁) ∧
      t.cache = s₁.cache ∧
      t.world.2 = s₁.world.2 ++ [.findEnvironment ctx.environmentId ctx.organizationId,
        .post ⟨url, requestBody ctx subscriber, [(header, signature)]⟩] := by
  obtain ⟨subscriber, s₁, hsubscriber, h⟩ := Run.bind_eq_ok_iff.mp h
  obtain ⟨signature, s₂, hsignature, h⟩ := Run.bind_eq_ok_iff.mp h
  obtain ⟨answer, s₃, hpost, h⟩ := Run.bind_eq_ok_iff.mp h
  cases h
  obtain ⟨hcache₂, hcalls₂⟩ := requestSignature_ok hsignature
  obtain ⟨hpost, hcache₃⟩ := EvaluatorState.call_eq_iff.mp hpost
  refine ⟨subscriber, signature, s₁, hsubscriber, hcache₃.trans hcache₂, ?_⟩
  rw [← (Prod.mk.inj hpost).2, hcalls₂, List.append_assoc]
  rfl

/-- In worlds of this kind, lookups of subscribers and environments do not fail. -/
structure Collaborators.RowsAvailable (c : Collaborators σ) (kind : σ → Prop) : Prop where
  subscriber : ∀ environmentId subscriberId w, kind w →
    ∃ row next, c.findSubscriber environmentId subscriberId w = (.ok row, next) ∧ kind next
  environment : ∀ environmentId organizationId w, kind w →
    ∃ row next, c.findEnvironment environmentId organizationId w = (.ok row, next)

variable {c store ctx vars} {kind : σ → Prop} {s : EvaluatorState (σ × List Call)}

theorem lookupSubscriber_available (hc : c.RowsAvailable kind) (hs : kind s.world.1)
    (environmentId subscriberId : String) :
    ∃ found t, lookupSubscriber (c.over store).recorded environmentId subscriberId s
      = (.ok found, t) ∧ kind t.world.1 := by
  obtain ⟨row, next, hrow, hnext⟩ := hc.subscriber environmentId subscriberId s.world.1 hs
  have hfetch : (c.over store).recorded.findSubscriber environmentId subscriberId s.world
      = (.ok (store.findSubscriber environmentId subscriberId),
        (next, s.world.2 ++ [.findSubscriber environmentId subscriberId])) := by
    simp only [Collaborators.recorded, Run.recorded, Collaborators.over, Run.answering_of_ok hrow]
  rcases lookupSubscriber_cases (c.over store).recorded environmentId subscriberId s with
    ⟨subscriber, -, hlookup⟩ | ⟨-, ⟨e, w, hfind, -⟩ | ⟨found, w, hfind, hlookup⟩⟩
  · exact ⟨_, s, hlookup, hs⟩
  · cases hfetch.symm.trans hfind
  · cases hfetch.symm.trans hfind
    exact ⟨_, _, hlookup, hnext⟩

theorem requestSubscriber_available (hc : c.RowsAvailable kind) (hs : kind s.world.1) :
    ∃ subscriber t, requestSubscriber (c.over store).recorded ctx vars s = (.ok subscriber, t) ∧
      kind t.world.1 := by
  rw [requestSubscriber]
  cases vars.subscriber with
  | some subscriber => exact ⟨subscriber, s, rfl, hs⟩
  | none =>
    obtain ⟨found, t, hlookup, ht⟩ :
        ∃ found t, lookupSubscriber (c.over store).recorded ctx.environmentId ctx.subscriberId s
          = (.ok found, t) ∧ kind t.world.1 :=
      lookupSubscriber_available hc hs ctx.environmentId ctx.subscriberId
    exact ⟨Json.ofOption Subscriber.toJson found, t, Run.bind_of_ok hlookup, ht⟩

/-- If lookups do not fail, then it is up to the store whether a request is sent. -/
theorem checkWebhook_available (hc : c.RowsAvailable kind) (hs : kind s.world.1) (url : String)
    (test : FieldTest) :
    (∃ e, store.signature ctx = .error e ∧
      (checkLeaf (c.over store).recorded header ctx vars (.webhook url test) s).1 = .error e ∧
      (checkLeaf (c.over store).recorded header ctx vars (.webhook url test) s).2.requests
        = s.requests) ∨
    ∃ signature request, store.signature ctx = .ok signature ∧
      (checkLeaf (c.over store).recorded header ctx vars (.webhook url test) s).2.requests
        = s.requests ++ [request] := by
  obtain ⟨subscriber, t, hsubscriber, ht⟩ :
      ∃ subscriber t, requestSubscriber (c.over store).recorded ctx vars s = (.ok subscriber, t) ∧
        kind t.world.1 := requestSubscriber_available hc hs
  rcases checkWebhook_cases c store header ctx vars url test s with
    ⟨e, hfail, hsame, hreason | hreason | hreason⟩ | ⟨_, signature, -, hsignature, hsent⟩
  · rw [hsubscriber] at hreason
    cases hreason
  · obtain ⟨row, next, hrow⟩ := hc.environment ctx.environmentId ctx.organizationId t.world.1 ht
    rw [hsubscriber, hrow] at hreason
    cases hreason
  · exact Or.inl ⟨e, hreason, hfail, hsame⟩
  · exact Or.inr ⟨signature, _, hsignature, hsent⟩

end

/-! ### Scripted worlds -/

namespace World

theorem ask_of_available {α : Type} (repository : Repository) (find : Store → α) {world : World}
    (h : world.failing = []) :
    ask repository find world = (.ok (find world.store), (ask repository find world).2) := by
  simp [ask, h]

/-- In a scripted world only the lookups fail that are scripted to do so. -/
theorem rowsAvailable_collaborators :
    collaborators.RowsAvailable fun world => world.failing = [] where
  subscriber environmentId subscriberId _ h :=
    ⟨_, _, ask_of_available .subscribers (fun store => store.findSubscriber environmentId
      subscriberId) h, h⟩
  environment environmentId organizationId _ h :=
    ⟨_, _, ask_of_available .environments (fun store => store.findEnvironment environmentId
      organizationId) h⟩

end World

end DeliveryGate
