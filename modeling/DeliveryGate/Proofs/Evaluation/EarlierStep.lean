import DeliveryGate.Proofs.Evaluation.Constant
import DeliveryGate.Proofs.Evaluation.Webhook
import DeliveryGate.Proofs.Store.Insertion

/-!
# Earlier steps

What a condition on an earlier step says, from the rows that were inserted: the first job of the
step and the first message of this job decide, with the opened events for an email and with the
flags of the message otherwise (`checkPreviousStep_decides`). A state and its opposite, as read and
unread, pass together only if there is no such message, and fail together only if the flag is unset.
-/

namespace DeliveryGate

variable {σ : Type}

/-! ### The rows of an earlier step -/

/-- A job of a step, for the subscriber and the transaction of a context. -/
structure Job.IsOf (ctx : Context) (step : String) (job : Job) : Prop where
  transaction : job.transactionId = ctx.transactionId
  subscriber : job.subscriberId = ctx.subscriberId
  environment : job.environmentId = ctx.environmentId
  step : job.stepId = step

/-- A message that a job sent, in the environment of a context. -/
structure Message.IsOf (ctx : Context) (job : Job) (message : Message) : Prop where
  environment : message.environmentId = ctx.environmentId
  job : message.jobId = job.id

/-- The event that a message was opened, for the parent of the context's job if it has one. -/
structure OpenedEvent.IsOf (ctx : Context) (message : Message) (event : OpenedEvent) : Prop where
  environment : event.environmentId = ctx.environmentId
  message : event.messageId = message.id
  parent : ∀ job parentId, ctx.job = some job → job.parentId = some parentId →
    event.jobId = parentId

/-- The message of a step: the first one of the first job of the step. -/
def StepMessage (rows : List Store.Row) (ctx : Context) (step : String) (message : Message) :
    Prop :=
  ∃ job, IsFirst (Job.IsOf ctx step) (rows.filterMap Store.Row.job?) job ∧
    IsFirst (Message.IsOf ctx job) (rows.filterMap Store.Row.message?) message

/-- Some event tells that a message was opened. -/
def WasOpened (rows : List Store.Row) (ctx : Context) (message : Message) : Prop :=
  ∃ event ∈ rows.filterMap Store.Row.openedEvent?, OpenedEvent.IsOf ctx message event

namespace Store

variable {rows : List Row} {ctx : Context} {step : String}

/-- The message of a step, as it is looked up. -/
def stepMessage? (store : Store) (ctx : Context) (step : String) : Option Message :=
  (store.findJob ⟨ctx.transactionId, ctx.subscriberId, ctx.environmentId, step⟩).bind fun job =>
    store.findMessage ctx.environmentId job.id

theorem findJob_eq_some_iff {job : Job} :
    (ofRows rows).findJob ⟨ctx.transactionId, ctx.subscriberId, ctx.environmentId, step⟩ = some job
      ↔ IsFirst (Job.IsOf ctx step) (rows.filterMap Row.job?) job := by
  rw [findJob, jobs_ofRows]
  refine find?_eq_some_iff_isFirst fun job => ?_
  simp only [JobQuery.matchesJob, Bool.and_eq_true, beq_iff_eq]
  exact ⟨fun ⟨⟨⟨ht, hs⟩, he⟩, hstep⟩ => ⟨ht, hs, he, hstep⟩,
    fun ⟨ht, hs, he, hstep⟩ => ⟨⟨⟨ht, hs⟩, he⟩, hstep⟩⟩

theorem findMessage_eq_some_iff {job : Job} {message : Message} :
    (ofRows rows).findMessage ctx.environmentId job.id = some message
      ↔ IsFirst (Message.IsOf ctx job) (rows.filterMap Row.message?) message := by
  rw [findMessage, messages_ofRows]
  refine find?_eq_some_iff_isFirst fun message => ?_
  simp only [Bool.and_eq_true, beq_iff_eq]
  exact ⟨fun ⟨he, hj⟩ => ⟨he, hj⟩, fun ⟨he, hj⟩ => ⟨he, hj⟩⟩

theorem stepMessage?_eq_some_iff {message : Message} :
    (ofRows rows).stepMessage? ctx step = some message ↔ StepMessage rows ctx step message := by
  rw [stepMessage?, Option.bind_eq_some_iff, StepMessage]
  simp only [findJob_eq_some_iff, findMessage_eq_some_iff]

theorem countOpened_pos_iff {message : Message} :
    0 < (ofRows rows).countOpened
        ⟨ctx.environmentId, ctx.job.bind CurrentJob.parentId, message.id⟩
      ↔ WasOpened rows ctx message := by
  rw [countOpened, openedEvents_ofRows, List.countP_pos_iff, WasOpened]
  have hevent : ∀ event : OpenedEvent,
      OpenedQuery.matchesEvent ⟨ctx.environmentId, ctx.job.bind CurrentJob.parentId, message.id⟩
        event = true ↔ OpenedEvent.IsOf ctx message event := by
    intro event
    simp only [OpenedQuery.matchesEvent, Bool.and_eq_true, beq_iff_eq]
    constructor
    · rintro ⟨⟨henvironment, hmessage⟩, hparent⟩
      refine ⟨henvironment, hmessage, fun job parentId hjob hid => ?_⟩
      simpa [hjob, hid] using hparent
    · rintro ⟨henvironment, hmessage, hparent⟩
      refine ⟨⟨henvironment, hmessage⟩, ?_⟩
      cases hjob : ctx.job with
      | none => rfl
      | some job =>
        cases hid : job.parentId with
        | none => simp [hid]
        | some parentId => simpa [hid] using hparent job parentId hjob hid
  simp only [hevent]

end Store

/-! ### What is recorded -/

/-- The flag of a message that a state is about. -/
def StepState.flag (state : StepState) (message : Message) : Option Bool :=
  if state.usesSeenFlag then message.seen else message.read

/-- What is known of a state of a message; nothing, if its flag is unset. -/
def Store.happened (store : Store) (ctx : Context) (message : Message) (state : StepState) :
    Option Bool :=
  if message.channel = .email then
    some (decide (0 < store.countOpened
      ⟨ctx.environmentId, ctx.job.bind CurrentJob.parentId, message.id⟩))
  else state.flag message

/-- The condition on an earlier step, as the rows of a store have it. -/
def Store.judgeStep (store : Store) (ctx : Context) (step : String) (state : StepState) :
    Condition :=
  match store.stepMessage? ctx step with
  | none => stepCondition state "" true
  | some message =>
    let happened := store.happened ctx message state
    let actual := match happened with
      | some b => Presence.boolText b
      | none => actualText none
    stepCondition state actual (happened == some (!state.isNegative))

/-- In worlds of this kind, lookups of jobs, messages and opened events do not fail. -/
structure Collaborators.StepsAvailable (c : Collaborators σ) (kind : σ → Prop) : Prop where
  job : ∀ query w, kind w → ∃ row next, c.findJob query w = (.ok row, next) ∧ kind next
  message : ∀ environmentId jobId w, kind w →
    ∃ row next, c.findMessage environmentId jobId w = (.ok row, next) ∧ kind next
  opened : ∀ query w, kind w → ∃ count next, c.countOpened query w = (.ok count, next)

theorem checkPreviousStep_available {c : Collaborators σ} {kind : σ → Prop}
    (hc : c.StepsAvailable kind) {w : σ} (hw : kind w) (store : Store) (ctx : Context)
    (step : String) (state : StepState) :
    ∃ next, checkPreviousStep (c.over store) ctx step state w
      = (.ok (store.judgeStep ctx step state), next) := by
  let query : Store.JobQuery :=
    ⟨ctx.transactionId, ctx.subscriberId, ctx.environmentId, step⟩
  obtain ⟨_, w₁, hanswer₁, hw₁⟩ := hc.job query w hw
  have hjob : (c.over store).findJob query w = (.ok (store.findJob query), w₁) :=
    Run.answering_of_ok hanswer₁ _
  rw [checkPreviousStep, Run.bind_of_ok hjob, Store.judgeStep, Store.stepMessage?]
  cases store.findJob query with
  | none => exact ⟨w₁, rfl⟩
  | some job =>
    obtain ⟨_, w₂, hanswer₂, hw₂⟩ := hc.message ctx.environmentId job.id w₁ hw₁
    have hmessage : (c.over store).findMessage ctx.environmentId job.id w₁
        = (.ok (store.findMessage ctx.environmentId job.id), w₂) :=
      Run.answering_of_ok hanswer₂ _
    dsimp only [Option.bind_some]
    rw [Run.bind_of_ok hmessage]
    cases store.findMessage ctx.environmentId job.id with
    | none => exact ⟨w₂, rfl⟩
    | some message =>
      dsimp only
      rw [Store.happened]
      by_cases hchannel : message.channel = .email
      · let opened : Store.OpenedQuery :=
          ⟨ctx.environmentId, ctx.job.bind CurrentJob.parentId, message.id⟩
        obtain ⟨_, w₃, hanswer₃⟩ := hc.opened opened w₂ hw₂
        have hcount : (c.over store).countOpened opened w₂
            = (.ok (store.countOpened opened), w₃) := Run.answering_of_ok hanswer₃ _
        rw [if_pos hchannel, if_pos hchannel, Run.bind_of_ok hcount]
        exact ⟨w₃, rfl⟩
      · rw [if_neg hchannel, if_neg hchannel]
        exact ⟨w₂, rfl⟩

/-! ### The verdicts -/

/-- What a condition and that on the opposite state owe to each other. -/
structure Opposite (rows : List Store.Row) (ctx : Context) (step : String)
    (flag : Message → Option Bool) (condition opposite : Condition) : Prop where
  /-- Both pass only without a job or a message. -/
  both : condition.passed = true → opposite.passed = true →
    ¬∃ message, StepMessage rows ctx step message
  /-- Both fail only for a message that is no email and whose flag is unset. -/
  neither : condition.passed = false → opposite.passed = false →
    ∃ message, StepMessage rows ctx step message ∧ message.channel ≠ .email ∧ flag message = none
  /-- In every other case one of them passes. -/
  one : ∀ message, StepMessage rows ctx step message →
    message.channel = .email ∨ flag message ≠ none → condition.passed = !opposite.passed

/-- What the conditions on a step owe to the rows that were inserted. -/
structure StepVerdicts (rows : List Store.Row) (ctx : Context) (step : String)
    (condition : StepState → Condition) : Prop where
  /-- Without a job or a message everything passes. -/
  missing : (¬∃ message, StepMessage rows ctx step message) →
    ∀ state, (condition state).passed = true ∧ (condition state).actual = ""
  /-- Events tell what happened to an email. -/
  email : ∀ message, StepMessage rows ctx step message → message.channel = .email →
    (∀ state ∈ [StepState.read, .seen, .opened],
      (condition state).passed = true ↔ WasOpened rows ctx message) ∧
    ∀ state ∈ [StepState.unread, .unseen],
      (condition state).passed = true ↔ ¬WasOpened rows ctx message
  /-- Flags tell what happened to any other message. -/
  flags : ∀ message, StepMessage rows ctx step message → message.channel ≠ .email →
    (∀ state ∈ [StepState.read, .opened],
      (condition state).passed = true ↔ message.read = some true) ∧
    ((condition .unread).passed = true ↔ message.read = some false) ∧
    ((condition .seen).passed = true ↔ message.seen = some true) ∧
    ((condition .unseen).passed = true ↔ message.seen = some false)
  read : Opposite rows ctx step Message.read (condition .read) (condition .unread)
  seen : Opposite rows ctx step Message.seen (condition .seen) (condition .unseen)

section

variable {rows : List Store.Row} {ctx : Context} {step : String} {message : Message}

theorem judgeStep_of_missing (h : ¬∃ message, StepMessage rows ctx step message)
    (state : StepState) :
    (Store.ofRows rows).judgeStep ctx step state = stepCondition state "" true := by
  have hnone : (Store.ofRows rows).stepMessage? ctx step = none :=
    Option.eq_none_iff_forall_ne_some.mpr fun message hmessage =>
      h ⟨message, Store.stepMessage?_eq_some_iff.mp hmessage⟩
  rw [Store.judgeStep, hnone]

/-- With a message a state passes if it is known to be as the state wants it. -/
theorem judgeStep_passed_iff (h : StepMessage rows ctx step message) (state : StepState) :
    ((Store.ofRows rows).judgeStep ctx step state).passed = true ↔
      (Store.ofRows rows).happened ctx message state = some (!state.isNegative) := by
  rw [Store.judgeStep, Store.stepMessage?_eq_some_iff.mpr h]
  exact beq_iff_eq

theorem judgeStep_email_iff (h : StepMessage rows ctx step message)
    (hchannel : message.channel = .email) (state : StepState) :
    ((Store.ofRows rows).judgeStep ctx step state).passed = true ↔
      (WasOpened rows ctx message ↔ state.isNegative = false) := by
  rw [judgeStep_passed_iff h, Store.happened, if_pos hchannel, Option.some.injEq,
    ← Store.countOpened_pos_iff, Bool.eq_iff_iff, decide_eq_true_iff, Bool.not_eq_true']

theorem judgeStep_flag_iff (h : StepMessage rows ctx step message)
    (hchannel : message.channel ≠ .email) (state : StepState) :
    ((Store.ofRows rows).judgeStep ctx step state).passed = true ↔
      state.flag message = some (!state.isNegative) := by
  rw [judgeStep_passed_iff h, Store.happened, if_neg hchannel]

/-- A state and one that asks for the contrary of the same flag. -/
theorem opposite_judgeStep {flag : Message → Option Bool} {state contrary : StepState}
    (hstate : state.isNegative = false) (hcontrary : contrary.isNegative = true)
    (hflag : state.flag = flag) (hsame : contrary.flag = flag) :
    Opposite rows ctx step flag ((Store.ofRows rows).judgeStep ctx step state)
      ((Store.ofRows rows).judgeStep ctx step contrary) := by
  have hemail : ∀ message, StepMessage rows ctx step message → message.channel = .email →
      (((Store.ofRows rows).judgeStep ctx step state).passed = true ↔
        WasOpened rows ctx message) ∧
      (((Store.ofRows rows).judgeStep ctx step contrary).passed = true ↔
        ¬WasOpened rows ctx message) := by
    intro message hmessage hchannel
    rw [judgeStep_email_iff hmessage hchannel, judgeStep_email_iff hmessage hchannel, hstate,
      hcontrary]
    exact ⟨iff_true_right rfl, iff_false_right Bool.noConfusion⟩
  have hother : ∀ message, StepMessage rows ctx step message → message.channel ≠ .email →
      (((Store.ofRows rows).judgeStep ctx step state).passed = true ↔
        flag message = some true) ∧
      (((Store.ofRows rows).judgeStep ctx step contrary).passed = true ↔
        flag message = some false) := by
    intro message hmessage hchannel
    rw [judgeStep_flag_iff hmessage hchannel, judgeStep_flag_iff hmessage hchannel, hstate,
      hcontrary, hflag, hsame]
    exact ⟨Iff.rfl, Iff.rfl⟩
  refine ⟨?_, ?_, ?_⟩
  · rintro hpassed hopposite ⟨message, hmessage⟩
    by_cases hchannel : message.channel = .email
    · obtain ⟨hopened, hclosed⟩ := hemail message hmessage hchannel
      exact hclosed.mp hopposite (hopened.mp hpassed)
    · obtain ⟨hset, hcleared⟩ := hother message hmessage hchannel
      cases (hset.mp hpassed).symm.trans (hcleared.mp hopposite)
  · intro hfailed hopposite
    rw [← Bool.not_eq_true] at hfailed hopposite
    obtain ⟨message, hmessage⟩ : ∃ message, StepMessage rows ctx step message := by
      by_contra hnone
      rw [judgeStep_of_missing hnone] at hfailed
      exact hfailed rfl
    by_cases hchannel : message.channel = .email
    · obtain ⟨hopened, hclosed⟩ := hemail message hmessage hchannel
      exact absurd (hclosed.mpr fun h => hfailed (hopened.mpr h)) hopposite
    · obtain ⟨hset, hcleared⟩ := hother message hmessage hchannel
      refine ⟨message, hmessage, hchannel, ?_⟩
      rcases hvalue : flag message with _ | _ | _
      · rfl
      · exact absurd (hcleared.mpr hvalue) hopposite
      · exact absurd (hset.mpr hvalue) hfailed
  · intro message hmessage hknown
    rw [Bool.eq_iff_iff, Bool.not_eq_true', ← Bool.not_eq_true]
    by_cases hchannel : message.channel = .email
    · obtain ⟨hopened, hclosed⟩ := hemail message hmessage hchannel
      rw [hopened, hclosed, Classical.not_not]
    · obtain ⟨hset, hcleared⟩ := hother message hmessage hchannel
      obtain ⟨b, hvalue⟩ := Option.ne_none_iff_exists'.mp (hknown.resolve_left hchannel)
      rw [hset, hcleared, hvalue]
      cases b <;> decide

theorem stepVerdicts_judgeStep :
    StepVerdicts rows ctx step ((Store.ofRows rows).judgeStep ctx step) where
  missing h state := by
    rw [judgeStep_of_missing h state]
    exact ⟨rfl, rfl⟩
  email message h hchannel := by
    have hstate := judgeStep_email_iff h hchannel
    simp [hstate, StepState.isNegative]
  flags message h hchannel := by
    have hstate := judgeStep_flag_iff h hchannel
    simp [hstate, StepState.isNegative, StepState.flag, StepState.usesSeenFlag]
  read := opposite_judgeStep rfl rfl rfl rfl
  seen := opposite_judgeStep rfl rfl rfl rfl

end

/-- The conditions on an earlier step are decided by the rows that were inserted. -/
theorem checkPreviousStep_decides {c : Collaborators σ} {kind : σ → Prop}
    (hc : c.StepsAvailable kind) {w : σ} (hw : kind w) (rows : List Store.Row) (ctx : Context)
    (step : String) :
    ∃ condition : StepState → Condition,
      (∀ state, ∃ next, checkPreviousStep (c.over (Store.ofRows rows)) ctx step state w
        = (.ok (condition state), next)) ∧
      StepVerdicts rows ctx step condition :=
  ⟨(Store.ofRows rows).judgeStep ctx step,
    checkPreviousStep_available hc hw (Store.ofRows rows) ctx step, stepVerdicts_judgeStep⟩

/-! ### Scripted worlds -/

open World in
/-- In a scripted world only the lookups fail that are scripted to do so. -/
theorem World.stepsAvailable_collaborators :
    collaborators.StepsAvailable fun world => world.failing = [] where
  job query _ h := ⟨_, _, ask_of_available .jobs (fun store => store.findJob query) h, h⟩
  message environmentId jobId _ h :=
    ⟨_, _, ask_of_available .messages (fun store => store.findMessage environmentId jobId) h, h⟩
  opened query _ h :=
    ⟨_, _, ask_of_available .openedEvents (fun store => store.countOpened query) h⟩

/-- A step with two jobs, of which the first sent an email that was opened for a parent job. A
message of the same job in another environment comes before it. -/
def Store.emailRows : List Store.Row :=
  [.job ⟨"job-1", "tx-1", "sub-1", "env-1", "digest", .email⟩,
    .job ⟨"job-2", "tx-1", "sub-1", "env-1", "digest", .sms⟩,
    .message ⟨"message-2", "job-1", "env-2", .inApp, some false, some false⟩,
    .message ⟨"message-1", "job-1", "env-1", .email, none, none⟩,
    .openedEvent ⟨"env-1", "parent-1", "message-1"⟩]

/-- The sample with a job that has this parent. -/
def Context.childOf (parentId : String) : Context :=
  { Context.sample with job := some ⟨"job-3", some parentId, .sms, none, none⟩ }

/-- For the parent job of the event the email was opened. -/
theorem checkPreviousStep_decides_opened :
    ∃ condition : StepState → Condition,
      (∀ state, ∃ next, checkPreviousStep (World.collaborators.over (Store.ofRows Store.emailRows))
        (Context.childOf "parent-1") "digest" state World.sample = (.ok (condition state), next)) ∧
      (condition .opened).passed = true ∧ (condition .unseen).passed = false := by
  obtain ⟨condition, hchecks, hverdicts⟩ := checkPreviousStep_decides
    World.stepsAvailable_collaborators (w := World.sample) rfl Store.emailRows
    (Context.childOf "parent-1") "digest"
  have hmessage : StepMessage Store.emailRows (Context.childOf "parent-1") "digest"
      ⟨"message-1", "job-1", "env-1", .email, none, none⟩ :=
    ⟨⟨"job-1", "tx-1", "sub-1", "env-1", "digest", .email⟩,
      ⟨⟨rfl, rfl, rfl, rfl⟩, [], _, rfl, by simp⟩,
      ⟨⟨rfl, rfl⟩, [⟨"message-2", "job-1", "env-2", .inApp, some false, some false⟩], _, rfl, by
        rintro message hmessage ⟨henvironment, -⟩
        rw [List.mem_singleton.mp hmessage] at henvironment
        exact absurd henvironment (by decide)⟩⟩
  have hopened : WasOpened Store.emailRows (Context.childOf "parent-1")
      ⟨"message-1", "job-1", "env-1", .email, none, none⟩ :=
    ⟨⟨"env-1", "parent-1", "message-1"⟩, by decide, rfl, rfl, fun job parentId hjob hid => by
      cases hjob
      exact Option.some.inj hid⟩
  obtain ⟨hstates, hcontraries⟩ := hverdicts.email _ hmessage rfl
  refine ⟨condition, hchecks, (hstates .opened (by simp)).mpr hopened, ?_⟩
  rw [← Bool.not_eq_true, hcontraries .unseen (by simp)]
  exact fun hclosed => hclosed hopened

end DeliveryGate
