import DeliveryGate.Proofs.Json.Text
import DeliveryGate.Proofs.Wire.Filter
import DeliveryGate.Proofs.Wire.Record

/-!
# Fixtures and their documents

A fixture that was read from JSON is read back from its own JSON, the fields of objects in whatever
order they are written, and from the text of this JSON if no number in it is a double and its
brackets are not nested too deep (`Fixture.decode_toJson`). Reading accepts more than is written:
defaults may be left out, null may stand for what is unset, filter values may be any scalars, and
lists may stand for records. But whatever is read can also be written.
-/

namespace DeliveryGate

variable {origin : Origin}

/-! ### Contexts -/

namespace Context

/-- The subscriber of a context was last seen at an instant that a timestamp can tell. -/
def Dated (ctx : Context) : Prop := ∀ subscriber ∈ ctx.subscriber, subscriber.Dated

theorem decode_dated : decode.Yields Dated :=
  Shape.Yields.reader <|
    .any <| .any <| .any <| .any <| .any <| .any <| .any <|
      .optional (fun d a hd _ => Subscriber.decode_dated d a hd) <|
        .make fun _ hsubscriber _ _ _ _ _ _ _ => hsubscriber

theorem decode_restores {ctx : Context} (h : ctx.Settled) (hdated : ctx.Dated)
    (horigin : origin.isFree = true) : decode.Restores origin ctx.toJson ctx := by
  refine Shape.Restores.reader ?_ rfl
  exact .given (.given (.given (.given (.given (.given (.given (.given .make rfl
    (Reader.optional_restores fun subscriber hmem =>
      ⟨Subscriber.decode_restores (h.subscriber subscriber hmem) (hdated subscriber hmem) horigin,
        fun hnull => nomatch hnull⟩)) rfl
    (Reader.value?_restores h.payload horigin)) rfl (Reader.value?_restores h.tenant horigin)) rfl
    (Reader.text_restores _)) rfl (Reader.text_restores _)) rfl (Reader.text_restores _)) rfl
    (Reader.text_restores _)) rfl (Reader.optional_restores fun job hmem =>
      ⟨CurrentJob.decode_restores (h.job job hmem) horigin, fun hnull => nomatch hnull⟩)

theorem tidy_toJson {ctx : Context} (h : ctx.Settled) : ctx.toJson.tidy = true := by
  have hsubscriber : (Json.ofOption Subscriber.toJson ctx.subscriber).tidy = true :=
    Json.tidy_ofOption fun subscriber hmem => Subscriber.tidy_toJson (h.subscriber subscriber hmem)
  have hpayload : (Json.value? ctx.payload).tidy = true :=
    Json.tidy_ofOption fun value hmem => (h.payload value hmem).tidy
  have htenant : (Json.value? ctx.tenant).tidy = true :=
    Json.tidy_ofOption fun value hmem => (h.tenant value hmem).tidy
  have hjob : (Json.ofOption CurrentJob.toJson ctx.job).tidy = true :=
    Json.tidy_ofOption fun job hmem => CurrentJob.tidy_toJson (h.job job hmem)
  refine Json.tidy_obj.mpr ⟨of_decide_eq_true rfl, ?_⟩
  simp [hsubscriber, hpayload, htenant, hjob]

end Context

/-! ### Seeds -/

namespace Seed

/-- Documents may hold the subscribers of a seed. -/
def Settled (seed : Seed) : Prop := ∀ s ∈ seed.subscribers, s.Settled ∧ s.Dated

theorem decode_yields : decode.Yields Settled := by
  have hsubscriber : Subscriber.decode.Yields fun s => s.Settled ∧ s.Dated := fun d s hd hread =>
    ⟨Subscriber.decode_yields d s hd hread, Subscriber.decode_dated d s hd hread⟩
  exact Shape.Yields.reader <|
    .any <| .any <| .any <| .any <| .field (Reader.list_yields hsubscriber)
      (fun _ _ hnone => Option.some.inj hnone ▸ List.forall_mem_nil _) <|
        .make fun _ hsubscribers _ _ _ _ => hsubscribers

theorem decode_restores {seed : Seed} (h : seed.Settled) (horigin : origin.isFree = true) :
    decode.Restores origin seed.toJson seed := by
  refine Shape.Restores.reader ?_ rfl
  exact .given (.given (.given (.given (.given .make rfl (Reader.list_restores Subscriber.toJson
    fun s hmem => Subscriber.decode_restores (h s hmem).1 (h s hmem).2 horigin)) rfl
    (Reader.list_restores Job.toJson fun job _ => Job.decode_restores job)) rfl
    (Reader.list_restores Message.toJson fun message _ => Message.decode_restores message)) rfl
    (Reader.list_restores OpenedEvent.toJson fun event _ => OpenedEvent.decode_restores event)) rfl
    (Reader.list_restores Environment.toJson fun environment _ =>
      Environment.decode_restores environment)

theorem tidy_toJson {seed : Seed} (h : seed.Settled) : seed.toJson.tidy = true := by
  refine Json.tidy_obj.mpr ⟨of_decide_eq_true rfl, ?_⟩
  simp only [List.forall_mem_cons]
  exact ⟨Json.tidy_map fun s hmem => Subscriber.tidy_toJson (h s hmem).1,
    Json.tidy_map fun job _ => job.tidy_toJson,
    Json.tidy_map fun message _ => message.tidy_toJson,
    Json.tidy_map fun event _ => event.tidy_toJson,
    Json.tidy_map fun environment _ => environment.tidy_toJson, List.forall_mem_nil _⟩

end Seed

/-! ### Fixtures -/

namespace Fixture

/-- Documents may hold all parts of a fixture. -/
structure Settled (fixture : Fixture) : Prop where
  filters : ∀ nodes ∈ fixture.filters, ∀ node ∈ nodes, node.fits = true
  context : fixture.context.Settled ∧ fixture.context.Dated
  seed : fixture.seed.Settled

theorem decode_yields : decode.Yields Settled := by
  have hfilters := Reader.list_yields Node.decode_yields
  have hcontext : Context.decode.Yields fun ctx => ctx.Settled ∧ ctx.Dated := fun d ctx hd hread =>
    ⟨Context.decode_yields d ctx hd hread, Context.decode_dated d ctx hd hread⟩
  exact Shape.Yields.reader <|
    .field Seed.decode_yields (fun _ _ hnone => Option.some.inj hnone ▸ List.forall_mem_nil _) <|
      .field hcontext (fun _ _ hnone => nomatch hnone) <|
        .optional (fun d nodes hd _ => hfilters d nodes hd) <|
          .make fun _ hnodes _ hctx _ hseed => ⟨hnodes, hctx, hseed⟩

theorem decode_restores {fixture : Fixture} (h : fixture.Settled) (horigin : origin.isFree = true) :
    decode.Restores origin fixture.toJson fixture := by
  have hfilters : ∀ nodes ∈ fixture.filters,
      (Reader.list Node.decode).Restores origin (.arr (Node.listToJson nodes)) nodes ∧
        Json.arr (Node.listToJson nodes) ≠ .null := by
    refine fun nodes hmem => ⟨?_, fun hnull => nomatch hnull⟩
    rw [Node.listToJson_eq_map]
    exact Reader.list_restores Node.toJson fun node hnode =>
      Node.decode_restores (h.filters nodes hmem node hnode) horigin
  refine Shape.Restores.reader ?_ rfl
  exact .given (.given (.given .make rfl (Reader.optional_restores hfilters)) rfl
    (Context.decode_restores h.context.1 h.context.2 horigin)) rfl
    (Seed.decode_restores h.seed horigin)

theorem tidy_toJson {fixture : Fixture} (h : fixture.Settled) : fixture.toJson.tidy = true := by
  have hfilters : (Json.ofOption (fun nodes => .arr (Node.listToJson nodes))
      fixture.filters).tidy = true := by
    refine Json.tidy_ofOption fun nodes hmem => ?_
    rw [Node.listToJson_eq_map]
    exact Json.tidy_map fun node hnode => Node.tidy_toJson (h.filters nodes hmem node hnode)
  refine Json.tidy_obj.mpr ⟨of_decide_eq_true rfl, ?_⟩
  simp [hfilters, Context.tidy_toJson h.context.1, Seed.tidy_toJson h.seed]

/-- The fixture was read from a JSON value or from a JSON text. -/
inductive FromJson (fixture : Fixture) : Prop where
  | value (value : Json) (hproper : value.proper = true)
    (hread : decode (Doc.ofJson value) = .ok fixture)
  | text (text : String) (hread : Loader.ofJsonText decode text = .ok fixture)

theorem FromJson.settled {fixture : Fixture} (h : fixture.FromJson) : fixture.Settled := by
  cases h with
  | value value hproper hread =>
    rw [← Doc.ofJsonIn_json] at hread
    exact decode_yields _ fixture (Doc.isJson_ofJsonIn hproper) hread
  | text text hread => exact decode_yields.of_reads (Loader.reads_of_ofJsonText hread)

/-- A fixture from JSON is read back from its JSON, whatever the order of fields in this (the one in
which records are written, or sorted, or another one), and from the text of its JSON if no number in
it is a double and its brackets are not nested too deep. -/
theorem decode_toJson {fixture : Fixture} (h : fixture.FromJson) :
    fixture.toJson.Reorders fixture.toJson ∧ fixture.toJson.sorted.Reorders fixture.toJson ∧
    ∀ written : Json, written.Reorders fixture.toJson →
      decode (Doc.ofJson written) = .ok fixture ∧
      (written.doubleFree = true → written.nesting ≤ Json.Raw.deepest →
        Loader.ofJsonText decode written.compact = .ok fixture) := by
  obtain ⟨hproper, hdistinct⟩ := Json.tidy_iff.mp (tidy_toJson h.settled)
  refine ⟨.refl hdistinct, .sorted_refl hdistinct, fun written hwritten => ?_⟩
  have hread : decode (Doc.ofJson written) = .ok fixture := by
    rw [← Doc.ofJsonIn_json]
    exact decode_restores h.settled rfl written hwritten
  refine ⟨hread, fun hdouble hnesting => ?_⟩
  exact Loader.ofJsonText_compact decode
    (Json.legible_of_proper (hwritten.proper hproper) hdouble) hnesting hread

/-- A fixture that is not written as a fixture writes itself: a number where the value of a filter
is a text, lists where records are, a leap second behind a blank, and null or nothing for what is
unset. -/
def loose : Json :=
  .obj [("context", .obj [("environmentId", .str "env-1"), ("organizationId", .str "org-1"),
      ("subscriberId", .str "sub-1"), ("transactionId", .str "tx-1"), ("payload", .null),
      ("job", .arr [.str "job-1", .null, .str "email", .null, .obj [("n", .int 7)]])]),
    ("filters", .arr [.obj [("value", .str "OR"), ("on", .str "group"), ("children",
      .arr [.obj [("on", .str "payload"), ("field", .str "n"), ("operator", .str "LARGER"),
          ("value", .int 5)],
        .arr [.str "isOnlineInLast", .int 5, .str "minutes"]])]]),
    ("seed", .obj [("subscribers", .arr [.obj [("subscriberId", .str "sub-1"),
      ("lastOnlineAt", .str "2024-03-01 12:00:60.5z")]])])]

/-- The fixture that it stands for. -/
def strict : Fixture where
  filters := some [.group .or [.leaf (.field .payload ⟨"n", .larger, "5"⟩),
    .leaf (.onlineInLast 5 .minutes)]]
  context := ⟨none, none, none, "env-1", "org-1", "sub-1", "tx-1",
    some ⟨"job-1", none, .email, none, some (.obj [("n", .int 7)])⟩⟩
  seed := { subscribers := [{ id := "sub-1", lastOnlineAt := some ⟨1709294459, 1500000000⟩ }] }

/-- The loose fixture is read back from what it is written as. -/
theorem decode_toJson_loose : decode (Doc.ofJson loose) = .ok strict ∧
    decode (Doc.ofJson strict.toJson.sorted) = .ok strict ∧
    Loader.ofJsonText decode strict.toJson.compact = .ok strict := by
  have hread : decode (Doc.ofJson loose) = .ok strict := rfl
  obtain ⟨hwritten, hsorted, hback⟩ := decode_toJson (.value loose rfl hread)
  exact ⟨hread, (hback _ hsorted).1, (hback _ hwritten).2 rfl (by decide)⟩

end Fixture

end DeliveryGate
