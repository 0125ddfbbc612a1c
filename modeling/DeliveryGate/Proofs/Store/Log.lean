import DeliveryGate.Fixture.Basic
import DeliveryGate.Proofs.Store.Insertion

/-!
# A store and its log

The log of a store tells what was inserted into each of its tables, in order. It answers every
lookup (`Store.Reflects`): the last row counts where rows are kept under a key, the first that
matches everywhere else, and an environment is found only if that last row belongs to the
organization. Any insertions build a store that reflects its log, so does a fixture
(`Store.ofRows_reflects`), and to insert a row changes no lookups but those it matches
(`Store.agreeBeyond_insert`).
-/

namespace DeliveryGate

namespace Store

namespace Row

def subscriber? : Row → Option (String × Subscriber)
  | .subscriber environmentId row => some (environmentId, row)
  | _ => none

def environment? : Row → Option Environment
  | .environment row => some row
  | _ => none

end Row

/-- What was inserted into each table, in order; subscribers with their environment. -/
structure Log where
  subscribers : List (String × Subscriber)
  jobs : List Job
  messages : List Message
  openedEvents : List OpenedEvent
  environments : List Environment

namespace Log

def ofRows (rows : List Row) : Log where
  subscribers := rows.filterMap Row.subscriber?
  jobs := rows.filterMap Row.job?
  messages := rows.filterMap Row.message?
  openedEvents := rows.filterMap Row.openedEvent?
  environments := rows.filterMap Row.environment?

/-- The log of a seed whose subscribers belong to this environment. -/
def ofSeed (seed : Seed) (environmentId : String) : Log where
  subscribers := seed.subscribers.map fun row => (environmentId, row)
  jobs := seed.jobs
  messages := seed.messages
  openedEvents := seed.openedEvents
  environments := seed.environments

theorem ofRows_seed (seed : Seed) (environmentId : String) :
    ofRows (seed.rows environmentId) = ofSeed seed environmentId := by
  simp [ofRows, ofSeed, Seed.rows, List.filterMap_append, Function.comp_def, Row.subscriber?,
    Row.job?, Row.message?, Row.openedEvent?, Row.environment?]

end Log

/-! ### What lookups ask for -/

/-- A job agrees with all four keys of a query. -/
structure JobQuery.Names (query : JobQuery) (job : Job) : Prop where
  transaction : job.transactionId = query.transactionId
  subscriber : job.subscriberId = query.subscriberId
  environment : job.environmentId = query.environmentId
  step : job.stepId = query.stepId

/-- An event is of the environment and the message of a query, and of its parent job if it has
one. -/
def OpenedQuery.Names (query : OpenedQuery) (event : OpenedEvent) : Prop :=
  event.environmentId = query.environmentId ∧ event.messageId = query.messageId ∧
    (query.parentJobId = none ∨ query.parentJobId = some event.jobId)

instance (query : OpenedQuery) (event : OpenedEvent) : Decidable (query.Names event) :=
  inferInstanceAs (Decidable (_ ∧ _))

theorem JobQuery.matchesJob_iff {query : JobQuery} {job : Job} :
    query.matchesJob job = true ↔ query.Names job := by
  simp only [matchesJob, Bool.and_eq_true, beq_iff_eq]
  exact ⟨fun ⟨⟨⟨ht, hs⟩, he⟩, hstep⟩ => ⟨ht, hs, he, hstep⟩,
    fun ⟨ht, hs, he, hstep⟩ => ⟨⟨⟨ht, hs⟩, he⟩, hstep⟩⟩

theorem OpenedQuery.matchesEvent_iff {query : OpenedQuery} {event : OpenedEvent} :
    query.matchesEvent event = true ↔ query.Names event := by
  rw [matchesEvent, Names]
  cases query.parentJobId with
  | none => simp
  | some parent => simp [and_assoc, eq_comm (a := parent)]

/-- Every lookup in a store is answered by its log. -/
structure Reflects (store : Store) (log : Log) : Prop where
  findSubscriber : ∀ environmentId subscriberId subscriber,
    store.findSubscriber environmentId subscriberId = some subscriber ↔
      IsLast (fun row => row.1 = environmentId ∧ row.2.id = subscriberId) log.subscribers
        (environmentId, subscriber)
  findJob : ∀ query job, store.findJob query = some job ↔ IsFirst query.Names log.jobs job
  findMessage : ∀ environmentId jobId message,
    store.findMessage environmentId jobId = some message ↔
      IsFirst (fun row => row.environmentId = environmentId ∧ row.jobId = jobId) log.messages
        message
  countOpened : ∀ query, store.countOpened query = (log.openedEvents.filter query.Names).length
  findEnvironment : ∀ environmentId organizationId environment,
    store.findEnvironment environmentId organizationId = some environment ↔
      IsLast (fun row => row.id = environmentId) log.environments environment ∧
        environment.organizationId = organizationId

/-- Two stores answer alike whenever they are asked for something that a row does not match. Lookups
in other tables than that of the row are never matched. -/
structure AgreeBeyond (row : Row) (store other : Store) : Prop where
  findSubscriber : ∀ environmentId subscriberId,
    (∀ subscriber, row = .subscriber environmentId subscriber → subscriber.id ≠ subscriberId) →
      store.findSubscriber environmentId subscriberId
        = other.findSubscriber environmentId subscriberId
  findJob : ∀ query, (∀ job, row = .job job → ¬query.Names job) →
    store.findJob query = other.findJob query
  findMessage : ∀ environmentId jobId,
    (∀ message, row = .message message →
      ¬(message.environmentId = environmentId ∧ message.jobId = jobId)) →
        store.findMessage environmentId jobId = other.findMessage environmentId jobId
  countOpened : ∀ query, (∀ event, row = .openedEvent event → ¬query.Names event) →
    store.countOpened query = other.countOpened query
  findEnvironment : ∀ environmentId organizationId,
    (∀ environment, row = .environment environment → environment.id ≠ environmentId) →
      store.findEnvironment environmentId organizationId
        = other.findEnvironment environmentId organizationId

/-! ### Tables under a key -/

/-- In a table under a key the last insertion under a key counts. -/
theorem lookup_foldl_insert {κ α β : Type} [BEq κ] [LawfulBEq κ] (table : Store → List (κ × α))
    (row? : Row → Option β) (key : β → κ) (value : β → α)
    (hinsert : ∀ store row k, (table (store.insert row)).lookup k
      = ((row? row).bind fun b => if k == key b then some (value b) else none).or
          ((table store).lookup k))
    (k : κ) :
    ∀ (rows : List Row) (store : Store), (table (rows.foldl insert store)).lookup k
      = (((rows.filterMap row?).reverse.find? fun b => k == key b).map value).or
          ((table store).lookup k)
  | [], store => rfl
  | row :: rest, store => by
    -- the rest was inserted later, so in the reversed log it stands before this row
    rw [List.foldl_cons, lookup_foldl_insert table row? key value hinsert k rest, hinsert,
      List.filterMap_cons]
    cases row? row with
    | none => rfl
    | some b =>
      rw [List.reverse_cons, List.find?_append, Option.bind_some]
      cases (rest.filterMap row?).reverse.find? fun b => k == key b with
      | none => cases hk : k == key b <;> simp [hk]
      | some later => rfl

theorem lookup_insert_subscriber (store : Store) (row : Row) (k : String × String) :
    (store.insert row).subscribers.lookup k
      = ((row.subscriber?).bind fun b => if k == (b.1, b.2.id) then some b.2 else none).or
          (store.subscribers.lookup k) := by
  cases row with
  | subscriber environmentId row =>
    rw [insert, lookup_put, Row.subscriber?, Option.bind_some]
    split <;> rfl
  | job | message | openedEvent | environment => rfl

theorem lookup_insert_environment (store : Store) (row : Row) (k : String) :
    (store.insert row).environments.lookup k
      = ((row.environment?).bind fun b => if k == b.id then some b else none).or
          (store.environments.lookup k) := by
  cases row with
  | environment row =>
    rw [insert, lookup_put, Row.environment?, Option.bind_some]
    split <;> rfl
  | subscriber | job | message | openedEvent => rfl

/-! ### Lookups and the log -/

section

variable (rows : List Row)

theorem findSubscriber_ofRows (environmentId subscriberId : String) (subscriber : Subscriber) :
    (ofRows rows).findSubscriber environmentId subscriberId = some subscriber ↔
      IsLast (fun row => row.1 = environmentId ∧ row.2.id = subscriberId)
        (Log.ofRows rows).subscribers (environmentId, subscriber) := by
  have hkey : ∀ row : String × Subscriber,
      ((environmentId, subscriberId) == (row.1, row.2.id)) = true ↔
        row.1 = environmentId ∧ row.2.id = subscriberId := by
    intro row
    rw [beq_iff_eq, Prod.mk.injEq, eq_comm (a := environmentId), eq_comm (a := subscriberId)]
  have hlookup := lookup_foldl_insert subscribers Row.subscriber? (fun b => (b.1, b.2.id)) Prod.snd
    lookup_insert_subscriber (environmentId, subscriberId) rows {}
  have hnone : ({} : Store).subscribers.lookup (environmentId, subscriberId) = none := rfl
  rw [findSubscriber, ofRows, hlookup, hnone, Option.or_none, Option.map_eq_some_iff,
    ← find?_reverse_eq_some_iff_isLast hkey]
  constructor
  · rintro ⟨⟨environment, row⟩, hfound, rfl⟩
    have hmatch := List.find?_some hfound
    obtain ⟨rfl, -⟩ := (hkey (environment, row)).mp hmatch
    exact hfound
  · exact fun hfound => ⟨_, hfound, rfl⟩

theorem findEnvironment_ofRows (environmentId organizationId : String)
    (environment : Environment) :
    (ofRows rows).findEnvironment environmentId organizationId = some environment ↔
      IsLast (fun row => row.id = environmentId) (Log.ofRows rows).environments environment ∧
        environment.organizationId = organizationId := by
  have hkey : ∀ row : Environment, (environmentId == row.id) = true ↔ row.id = environmentId :=
    fun row => beq_iff_eq.trans eq_comm
  have hlookup := lookup_foldl_insert environments Row.environment? Environment.id id
    lookup_insert_environment environmentId rows {}
  have hnone : ({} : Store).environments.lookup environmentId = none := rfl
  rw [findEnvironment, ofRows, hlookup, hnone, Option.or_none, Option.map_id, id_eq,
    Option.filter_eq_some_iff, beq_iff_eq, ← find?_reverse_eq_some_iff_isLast hkey]
  rfl

theorem reflects_ofRows : (ofRows rows).Reflects (Log.ofRows rows) where
  findSubscriber := findSubscriber_ofRows rows
  findJob query job := by
    rw [findJob, jobs_ofRows]
    exact find?_eq_some_iff_isFirst fun _ => JobQuery.matchesJob_iff
  findMessage environmentId jobId message := by
    rw [findMessage, messages_ofRows]
    refine find?_eq_some_iff_isFirst fun row => ?_
    rw [Bool.and_eq_true, beq_iff_eq, beq_iff_eq]
  countOpened query := by
    have hmatches : query.matchesEvent = fun event => decide (query.Names event) :=
      funext fun event => Bool.eq_iff_iff.mpr <|
        OpenedQuery.matchesEvent_iff.trans decide_eq_true_iff.symm
    rw [countOpened, openedEvents_ofRows, List.countP_eq_length_filter, hmatches]
    rfl
  findEnvironment := findEnvironment_ofRows rows

end

theorem reflects_fixture (fixture : Fixture) :
    fixture.store.Reflects (Log.ofSeed fixture.seed fixture.context.environmentId) :=
  Log.ofRows_seed fixture.seed fixture.context.environmentId ▸ reflects_ofRows _

/-- Whatever an inserted row does not match is looked up as before. -/
theorem agreeBeyond_insert (store : Store) (row : Row) :
    (store.insert row).AgreeBeyond row store where
  findSubscriber environmentId subscriberId h := by
    rw [findSubscriber, lookup_insert_subscriber]
    cases row with
    | subscriber other row =>
      have hkey : ((environmentId, subscriberId) == (other, row.id)) = false := by
        rw [beq_eq_false_iff_ne]
        intro heq
        obtain ⟨rfl, rfl⟩ := Prod.mk.inj heq
        exact h row rfl rfl
      rw [Row.subscriber?, Option.bind_some, hkey]
      rfl
    | job | message | openedEvent | environment => rfl
  findJob query h := by
    cases row with
    | job row =>
      have hmatch : ¬query.matchesJob row = true := fun hmatch =>
        h row rfl (JobQuery.matchesJob_iff.mp hmatch)
      simp [findJob, insert, hmatch]
    | subscriber | message | openedEvent | environment => rfl
  findMessage environmentId jobId h := by
    cases row with
    | message row =>
      have hmatch := h row rfl
      simp [findMessage, insert, hmatch]
    | subscriber | job | openedEvent | environment => rfl
  countOpened query h := by
    cases row with
    | openedEvent row =>
      have hmatch : ¬query.matchesEvent row = true := fun hmatch =>
        h row rfl (OpenedQuery.matchesEvent_iff.mp hmatch)
      simp [countOpened, insert, hmatch]
    | subscriber | job | message | environment => rfl
  findEnvironment environmentId organizationId h := by
    rw [findEnvironment, lookup_insert_environment]
    cases row with
    | environment row =>
      have hkey : (environmentId == row.id) = false :=
        beq_eq_false_iff_ne.mpr fun heq => h row rfl heq.symm
      rw [Row.environment?, Option.bind_some, hkey]
      rfl
    | subscriber | job | message | openedEvent => rfl

/-- A store is its log: whatever was inserted, and whatever a fixture was seeded with, each lookup
is answered by the log, and an insertion is seen by no lookup but those that its row matches. -/
theorem ofRows_reflects :
    (∀ rows, (ofRows rows).Reflects (Log.ofRows rows)) ∧
    (∀ fixture : Fixture,
      fixture.store.Reflects (Log.ofSeed fixture.seed fixture.context.environmentId)) ∧
    ∀ store row, AgreeBeyond row (store.insert row) store :=
  ⟨reflects_ofRows, reflects_fixture, agreeBeyond_insert⟩

/-- Each table gets two rows that one lookup matches. -/
def contested : List Row :=
  [.subscriber "env-1" { id := "sub-1", isOnline := some false },
    .environment ⟨"env-1", "org-1", ["first"]⟩,
    .job ⟨"job-1", "tx-1", "sub-1", "env-1", "step-1", .email⟩,
    .message ⟨"msg-1", "job-1", "env-1", .email, none, none⟩,
    .openedEvent ⟨"env-1", "job-1", "msg-1"⟩,
    .subscriber "env-1" { id := "sub-1", isOnline := some true },
    .openedEvent ⟨"env-1", "job-2", "msg-1"⟩,
    .message ⟨"msg-2", "job-1", "env-1", .sms, none, some true⟩,
    .job ⟨"job-2", "tx-1", "sub-1", "env-1", "step-1", .sms⟩,
    .environment ⟨"env-1", "org-2", ["second"]⟩]

/-- A fixture without filters, whose seed has two rows for one subscriber and two messages of one
job. -/
def contestedFixture : Fixture :=
  { filters := none
    context :=
      { subscriber := none, payload := none, tenant := none, environmentId := "env-1"
        organizationId := "org-1", subscriberId := "sub-1", transactionId := "tx-1", job := none }
    seed :=
      { subscribers := [{ id := "sub-1", isOnline := some false },
          { id := "sub-1", isOnline := some true }]
        messages := [⟨"msg-1", "job-1", "env-1", .email, none, none⟩,
          ⟨"msg-2", "job-1", "env-1", .sms, none, some true⟩] } }

/-- Of contested rows the last subscriber and environment count, and the first job and message; the
organization of the earlier environment finds none. A row with the same identifier in another
environment is not seen. A fixture seeds the environment of its context in the same way, and no
other. -/
theorem ofRows_reflects_contested :
    ((ofRows contested).findSubscriber "env-1" "sub-1"
        = some { id := "sub-1", isOnline := some true } ∧
      (ofRows contested).findJob ⟨"tx-1", "sub-1", "env-1", "step-1"⟩
        = some ⟨"job-1", "tx-1", "sub-1", "env-1", "step-1", .email⟩ ∧
      (ofRows contested).findMessage "env-1" "job-1"
        = some ⟨"msg-1", "job-1", "env-1", .email, none, none⟩ ∧
      (ofRows contested).countOpened ⟨"env-1", none, "msg-1"⟩ = 2 ∧
      (ofRows contested).countOpened ⟨"env-1", some "job-2", "msg-1"⟩ = 1 ∧
      (ofRows contested).findEnvironment "env-1" "org-2"
        = some ⟨"env-1", "org-2", ["second"]⟩ ∧
      (ofRows contested).findEnvironment "env-1" "org-1" = none) ∧
    (contestedFixture.store.findSubscriber "env-1" "sub-1"
        = some { id := "sub-1", isOnline := some true } ∧
      contestedFixture.store.findSubscriber "env-2" "sub-1" = none ∧
      contestedFixture.store.findMessage "env-1" "job-1"
        = some ⟨"msg-1", "job-1", "env-1", .email, none, none⟩) ∧
    ((ofRows contested).insert (.subscriber "env-2" { id := "sub-1" })).findSubscriber "env-1"
      "sub-1" = (ofRows contested).findSubscriber "env-1" "sub-1" := by
  obtain ⟨hreflects, hfixture, hbeyond⟩ := ofRows_reflects
  have hlog := hreflects contested
  have hseeded := hfixture contestedFixture
  refine ⟨⟨(hlog.findSubscriber _ _ _).mpr ?_, (hlog.findJob _ _).mpr ?_,
      (hlog.findMessage _ _ _).mpr ?_, hlog.countOpened _, hlog.countOpened _,
      (hlog.findEnvironment _ _ _).mpr ⟨?_, rfl⟩, rfl⟩,
    ⟨(hseeded.findSubscriber _ _ _).mpr ?_, rfl, (hseeded.findMessage _ _ _).mpr ?_⟩,
    (hbeyond _ _).findSubscriber _ _ fun _ h => absurd (Row.subscriber.inj h).1 (by decide)⟩
  · exact ⟨⟨rfl, rfl⟩, [_], [], rfl, List.forall_mem_nil _⟩
  · exact ⟨⟨rfl, rfl, rfl, rfl⟩, [], [_], rfl, List.forall_mem_nil _⟩
  · exact ⟨⟨rfl, rfl⟩, [], [_], rfl, List.forall_mem_nil _⟩
  · exact ⟨rfl, [_], [], rfl, List.forall_mem_nil _⟩
  · exact ⟨⟨rfl, rfl⟩, [_], [], rfl, List.forall_mem_nil _⟩
  · exact ⟨⟨rfl, rfl⟩, [], [_], rfl, List.forall_mem_nil _⟩

end Store

end DeliveryGate
