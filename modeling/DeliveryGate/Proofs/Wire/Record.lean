import DeliveryGate.Proofs.Document.Objects
import DeliveryGate.Proofs.Time.Timestamp

/-!
# Records and their documents

Every record is read back from the document of its JSON, the fields in any order, if its free-form
values are such that documents may hold them and its instants such that timestamps can tell them.
Both are so for every record that is read from JSON. A subscriber leaves unset fields out, every
other record writes null for them; both are read as unset.
-/

namespace DeliveryGate

variable {α : Type} {origin : Origin}

/-! ### Fields that may be left out -/

namespace Json

section

variable {name : String} {f : α → Json} {found : Option α}

theorem forall_mem_setField {P : String × Json → Prop} :
    (∀ field ∈ setField name f found, P field) ↔ ∀ a ∈ found, P (name, f a) := by
  cases found <;> simp [setField]

theorem map_fst_setField_sublist : ((setField name f found).map Prod.fst).Sublist [name] := by
  cases found with
  | none => exact List.nil_sublist _
  | some a => exact List.Sublist.refl _

theorem lookup_setField : (setField name f found).lookup name = found.map f := by
  cases found with
  | none => rfl
  | some a => exact List.lookup_cons_self

theorem lookup_setField_of_ne {other : String} (h : other ≠ name) :
    (setField name f found).lookup other = none := by
  cases found with
  | none => rfl
  | some a =>
    rw [setField, List.lookup_cons, beq_false_of_ne h]
    rfl

end

theorem Settled.restores {value : Json} (h : value.Settled) (horigin : origin.isFree = true) :
    Reader.value.Restores origin value value ∧ value ≠ .null :=
  ⟨Reader.value_restores horigin h.1, h.2⟩

theorem Settled.tidy {value : Json} (h : value.Settled) : value.tidy = true :=
  tidy_of_canonical h.1

theorem tidy_text? (found : Option String) : (text? found).tidy = true :=
  tidy_ofOption fun s _ => tidy_str s

theorem tidy_flag? (found : Option Bool) : (flag? found).tidy = true :=
  tidy_ofOption fun b _ => tidy_bool b

end Json

/-- A text or nothing. -/
theorem Reader.text?_restores (found : Option String) :
    Reader.text.optional.Restores origin (Json.text? found) found :=
  optional_restores fun s _ => ⟨text_restores s, fun h => nomatch h⟩

theorem Reader.flag?_restores (found : Option Bool) :
    Reader.flag.optional.Restores origin (Json.flag? found) found :=
  optional_restores fun b _ => ⟨flag_restores b, fun h => nomatch h⟩

theorem Reader.value?_restores {found : Option Json} (h : ∀ value ∈ found, value.Settled)
    (horigin : origin.isFree = true) :
    Reader.value.optional.Restores origin (Json.value? found) found :=
  optional_restores fun value hvalue => (h value hvalue).restores horigin

theorem Reader.texts_restores (texts : List String) :
    (Reader.list Reader.text).Restores origin (Json.texts texts) texts :=
  list_restores Json.str fun s _ => text_restores s

theorem Channel.decode_restores (channel : Channel) :
    decode.Restores origin channel.toJson channel :=
  Reader.choice_restores (by cases channel <;> rfl)

namespace Instant

theorem instant_restores {t : Instant} (h : t.Datable) :
    Reader.instant.Restores origin t.toJson t := by
  intro written hwritten
  rw [hwritten.eq_str, Reader.instant, Reader.text_restores _ _ (.refl rfl)]
  simp only [Reader.ofOption, parse?_render h]

theorem instant_yields : Reader.instant.Yields Datable := by
  intro d t _ h
  rw [Reader.instant] at h
  split at h
  · cases h
  · rw [Reader.ofOption] at h
    split at h
    · rename_i hparse
      exact datable_of_parse? (Except.ok.inj h ▸ hparse)
    · cases h

end Instant

/-! ### Subscribers -/

namespace Subscriber

/-- The presence of a subscriber is such that a timestamp can tell it. -/
def Dated (s : Subscriber) : Prop := ∀ t ∈ s.lastOnlineAt, t.Datable

theorem decode_dated : decode.Yields Dated :=
  Shape.Yields.reader <|
    .optional (fun d t hd _ => Instant.instant_yields d t hd) <| .any <| .any <| .any <| .any <|
      .any <| .any <| .any <| .any <| .make fun _ _ _ _ _ _ _ _ _ hdated => hdated

/-- The names under which a subscriber is written, in order. -/
def fieldNames : List String :=
  ["data", "email", "firstName", "isOnline", "lastName", "lastOnlineAt", "locale", "phone",
    "subscriberId"]

/-- The fields of a subscriber have some of these names. -/
theorem keys_sublist {s : Subscriber} {fields : List (String × Json)} (h : s.toJson = .obj fields) :
    (fields.map Prod.fst).Sublist fieldNames := by
  obtain rfl := Json.obj.inj h
  simp only [List.map_append]
  have hset {α : Type} (name : String) (f : α → Json) (found : Option α) :
      ((Json.setField name f found).map Prod.fst).Sublist [name] := Json.map_fst_setField_sublist
  exact (hset "data" _ _).append (hset "email" _ _) |>.append (hset "firstName" _ _)
    |>.append (hset "isOnline" _ _) |>.append (hset "lastName" _ _)
    |>.append (hset "lastOnlineAt" _ _) |>.append (hset "locale" _ _) |>.append (hset "phone" _ _)
    |>.append (List.Sublist.refl ["subscriberId"])

theorem decode_restores {s : Subscriber} (h : s.Settled) (hdated : s.Dated)
    (horigin : origin.isFree = true) : decode.Restores origin s.toJson s := by
  have htext {found : Option String} : ∀ text ∈ found,
      Reader.text.Restores origin (.str text) text ∧ Json.str text ≠ .null :=
    fun text _ => ⟨Reader.text_restores text, fun h => nomatch h⟩
  have hdata : ∀ value ∈ s.data,
      Reader.value.Restores origin value value ∧ value ≠ .null :=
    fun value hvalue => (h value hvalue).restores horigin
  have honline : ∀ flag ∈ s.isOnline,
      Reader.flag.Restores origin (.bool flag) flag ∧ Json.bool flag ≠ .null :=
    fun flag _ => ⟨Reader.flag_restores flag, fun h => nomatch h⟩
  have hseen : ∀ t ∈ s.lastOnlineAt,
      Reader.instant.Restores origin t.toJson t ∧ t.toJson ≠ .null :=
    fun t ht => ⟨Instant.instant_restores (hdated t ht), fun h => nomatch h⟩
  have hmissing {α : Type} (entries : Entries) (_ : entries.positional = false) :
      (fun _ : Entries => some (none : Option α)) entries = some none := rfl
  refine Shape.Restores.reader ?_ ?_
  · refine .found (.found (.found (.found (.found (.found (.found (.found (.given .make
      ?_ (Reader.text_restores _)) ?_ htext hmissing) ?_ htext hmissing) ?_ htext hmissing)
      ?_ htext hmissing) ?_ htext hmissing) ?_ hdata hmissing) ?_ honline hmissing)
      ?_ hseen hmissing
    all_goals
      simp [List.lookup_append, List.lookup_cons, Json.lookup_setField, Json.lookup_setField_of_ne]
  · have hnames : ∀ name ∈ fieldNames, shape.names.contains name = true := by decide
    exact List.all_eq_true.mpr fun name hname => hnames name ((keys_sublist rfl).subset hname)

/-- The structured form of a subscriber is canonical: its fields are written by name. -/
theorem Settled.toJson {s : Subscriber} (h : s.Settled) : s.toJson.Settled := by
  refine ⟨?_, fun hnull => nomatch hnull⟩
  rw [Subscriber.toJson, Json.canonical, Json.all, Bool.and_eq_true]
  constructor
  · have hnames : fieldNames.Pairwise (· < ·) := by decide
    exact decide_eq_true (hnames.sublist (keys_sublist rfl))
  · have hdata : ∀ value ∈ s.data, value.all Json.isProper Json.increasing = true :=
      fun value hvalue => (h value hvalue).1
    simp only [Json.allFields_eq_true_iff, List.forall_mem_append, Json.forall_mem_setField]
    simpa [Json.all, Json.isProper, Instant.toJson] using hdata

theorem tidy_toJson {s : Subscriber} (h : s.Settled) : s.toJson.tidy = true := h.toJson.tidy

end Subscriber

/-! ### Jobs, messages, events and environments -/

namespace CurrentJob

theorem decode_restores {job : CurrentJob} (h : job.Settled) (horigin : origin.isFree = true) :
    decode.Restores origin job.toJson job := by
  refine Shape.Restores.reader ?_ rfl
  exact .given (.given (.given (.given (.given .make rfl (Reader.text_restores _)) rfl
    (Reader.text?_restores _)) rfl (Channel.decode_restores _)) rfl (Reader.text?_restores _)) rfl
    (Reader.value?_restores h horigin)

theorem tidy_toJson {job : CurrentJob} (h : job.Settled) : job.toJson.tidy = true := by
  refine Json.tidy_obj.mpr ⟨of_decide_eq_true rfl, ?_⟩
  have hpayload : (Json.value? job.payload).tidy = true :=
    Json.tidy_ofOption fun value hvalue => (h value hvalue).tidy
  simp [Channel.toJson, Json.tidy_text?, hpayload]

end CurrentJob

namespace Job

theorem decode_restores (job : Job) : decode.Restores origin job.toJson job := by
  refine Shape.Restores.reader ?_ rfl
  exact .given (.given (.given (.given (.given (.given .make rfl (Reader.text_restores _)) rfl
    (Reader.text_restores _)) rfl (Reader.text_restores _)) rfl (Reader.text_restores _)) rfl
    (Reader.text_restores _)) rfl (Channel.decode_restores _)

theorem tidy_toJson (job : Job) : job.toJson.tidy = true := by
  refine Json.tidy_obj.mpr ⟨of_decide_eq_true rfl, ?_⟩
  simp [Channel.toJson]

end Job

namespace Message

theorem decode_restores (message : Message) : decode.Restores origin message.toJson message := by
  refine Shape.Restores.reader ?_ rfl
  exact .given (.given (.given (.given (.given (.given .make rfl (Reader.text_restores _)) rfl
    (Reader.text_restores _)) rfl (Reader.text_restores _)) rfl (Channel.decode_restores _)) rfl
    (Reader.flag?_restores _)) rfl (Reader.flag?_restores _)

theorem tidy_toJson (message : Message) : message.toJson.tidy = true := by
  refine Json.tidy_obj.mpr ⟨of_decide_eq_true rfl, ?_⟩
  simp [Channel.toJson, Json.tidy_flag?]

end Message

namespace OpenedEvent

theorem decode_restores (event : OpenedEvent) : decode.Restores origin event.toJson event := by
  refine Shape.Restores.reader ?_ rfl
  exact .given (.given (.given .make rfl (Reader.text_restores _)) rfl (Reader.text_restores _)) rfl
    (Reader.text_restores _)

theorem tidy_toJson (event : OpenedEvent) : event.toJson.tidy = true := by
  refine Json.tidy_obj.mpr ⟨of_decide_eq_true rfl, ?_⟩
  simp

end OpenedEvent

namespace Environment

theorem decode_restores (environment : Environment) :
    decode.Restores origin environment.toJson environment := by
  refine Shape.Restores.reader ?_ rfl
  exact .given (.given (.given .make rfl (Reader.text_restores _)) rfl (Reader.text_restores _)) rfl
    (Reader.texts_restores _)

theorem tidy_toJson (environment : Environment) : environment.toJson.tidy = true := by
  refine Json.tidy_obj.mpr ⟨of_decide_eq_true rfl, ?_⟩
  have hkeys : (Json.texts environment.apiKeys).tidy = true :=
    Json.tidy_map fun key _ => Json.tidy_str key
  simp [hkeys]

end Environment

end DeliveryGate
