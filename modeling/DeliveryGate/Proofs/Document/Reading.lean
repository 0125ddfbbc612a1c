import DeliveryGate.Fixture.Loader
import DeliveryGate.Proofs.Document.Values
import DeliveryGate.Proofs.Json.Text
import DeliveryGate.Wire.Evaluation

/-!
# What is read from JSON

A property of what a reader gives can be told field by field: a shape yields what its fields yield
(`Shape.Yields.field`). In particular every free-form value of a context or subscriber that is read
from JSON is canonical and not null (`Context.decode_yields`, `Subscriber.decode_yields`): null
leaves the field unset.
-/

namespace DeliveryGate

variable {α β : Type}

/-- Whatever is read from a document of JSON is so. -/
def Reader.Yields (reader : Reader α) (P : α → Prop) : Prop :=
  ∀ d a, d.isJson = true → reader d = .ok a → P a

/-- This was read from a document of JSON. -/
def Reader.Reads (reader : Reader α) (a : α) : Prop := ∃ d, d.isJson = true ∧ reader d = .ok a

theorem Reader.Yields.of_reads {reader : Reader α} {P : α → Prop} (h : reader.Yields P) {a : α}
    (ha : reader.Reads a) : P a := by
  obtain ⟨d, hd, hread⟩ := ha
  exact h d a hd hread

/-- What is read from a JSON text is read from a document of JSON. -/
theorem Loader.reads_of_ofJsonText {reader : Reader α} {text : String} {a : α}
    (h : ofJsonText reader text = .ok a) : reader.Reads a := by
  rw [ofJsonText] at h
  split at h
  · cases h
  · rename_i raw _
    refine ⟨raw.toDoc, Doc.isJson_ofRaw raw _, ?_⟩
    cases hread : reader raw.toDoc with
    | error e =>
      rw [hread] at h
      cases h
    | ok b =>
      rw [hread] at h
      exact congrArg Except.ok (Except.ok.inj h)

/-- The text of a value, however it is laid out, is read as its document. -/
theorem Loader.ofJsonText_write (reader : Reader α) (layout : Json.Layout) {value : Json}
    (h : value.legible = true) (hnesting : value.nesting ≤ Json.Raw.deepest) {a : α}
    (hread : reader (Doc.ofJson value) = .ok a) :
    ofJsonText reader (String.ofList (layout.write 0 value)) = .ok a := by
  obtain ⟨raw, hparse, hdoc⟩ := Json.Raw.parse?_write layout h hnesting
  rw [ofJsonText, hparse]
  simp only [hdoc, hread]
  rfl

theorem Loader.ofJsonText_compact (reader : Reader α) {value : Json} (h : value.legible = true)
    (hnesting : value.nesting ≤ Json.Raw.deepest) {a : α}
    (hread : reader (Doc.ofJson value) = .ok a) : ofJsonText reader value.compact = .ok a := by
  have hwrite := ofJsonText_write reader .dense h hnesting hread
  rwa [Json.Layout.write_dense] at hwrite

/-- A file in JSON is read as its text. -/
theorem Loader.ofFile_toUTF8 (reader : Reader α) {name : String} (hname : isJson name = true)
    (text : String) : ofFile reader name (some text.toUTF8) = ofJsonText reader text := by
  have hutf8 : String.fromUTF8? text.toUTF8 = some text := dif_pos text.isValidUTF8
  rw [ofFile, Option.bind_some, hutf8]
  simp only [hname, if_true]

/-- An optional value is what its reader yields where there is something else than null. -/
theorem Reader.optional_yields {reader : Reader α} {P : α → Prop}
    (h : ∀ d a, d.isJson = true → d ≠ .scalar .null → reader d = .ok a → P a) :
    Reader.Yields reader.optional fun found => ∀ a ∈ found, P a := by
  intro doc found hdoc hread
  rw [Reader.optional.eq_def] at hread
  split at hread
  · cases hread
    exact fun _ hmem => nomatch hmem
  · cases hdoc
  · rename_i hnull _
    rcases ha : reader doc with e | a <;> rw [ha] at hread <;> cases hread
    rintro _ ⟨⟩
    exact h doc a hdoc hnull ha

/-- A list is one of what its reader yields. -/
theorem Reader.list_yields {reader : Reader α} {P : α → Prop} (h : reader.Yields P) :
    (Reader.list reader).Yields fun values => ∀ a ∈ values, P a := by
  have hitems : ∀ (docs : List Doc) (values : List α), Doc.isJsonItems docs = true →
      Reader.items reader docs = .ok values → ∀ a ∈ values, P a := by
    intro docs
    induction docs with
    | nil =>
      rintro _ _ ⟨⟩ _ hmem
      cases hmem
    | cons d rest ih =>
      intro values hdocs hread
      rw [Doc.isJsonItems, Bool.and_eq_true] at hdocs
      rw [Reader.items] at hread
      rcases ha : reader d with e | a <;> rw [ha] at hread
      · cases hread
      · rcases hmore : Reader.items reader rest with e | more <;> rw [hmore] at hread
        · cases hread
        · cases hread
          exact List.forall_mem_cons.mpr ⟨h d a hdocs.1 ha, ih more hdocs.2 hmore⟩
  intro d values hd hread
  cases d with
  | list origin docs => exact hitems docs values hd hread
  | lexeme l => cases hd
  | _ => cases hread

/-! ### Records -/

/-- All fields are documents of JSON. -/
def Entries.IsJson (entries : Entries) : Prop := ∀ field ∈ entries.fields, field.2.isJson = true

theorem Entries.isJson_named? {names : List String} : ∀ {fields : List (Doc × Doc)}
    {known : List (String × Doc)}, Doc.isJsonFields fields = true →
      named? names fields = some known → ∀ field ∈ known, field.2.isJson = true
  | [], known, _, h => by
    cases h
    exact fun _ hmem => nomatch hmem
  | (key, d) :: rest, known, hfields, h => by
    rw [Doc.isJsonFields, Bool.and_eq_true] at hfields
    rw [named?, Option.bind_eq_bind, Option.bind_eq_some_iff] at h
    obtain ⟨name, -, h⟩ := h
    obtain ⟨more, hmore, h⟩ := Option.bind_eq_some_iff.mp h
    have hrest := isJson_named? hfields.2 hmore
    cases name with
    | none =>
      cases h
      exact hrest
    | some name =>
      cases h
      exact List.forall_mem_cons.mpr ⟨hfields.1, hrest⟩

theorem Entries.isJson_ofDoc? {names : List String} {d : Doc} {entries : Entries}
    (hd : d.isJson = true) (h : ofDoc? names d = some entries) : entries.IsJson := by
  rw [ofDoc?.eq_def] at h
  split at h
  · obtain ⟨known, hknown, rfl⟩ := Option.map_eq_some_iff.mp h
    exact isJson_named? hd hknown
  · rename_i origin items
    split at h
    · cases h
      intro field hmem
      exact Doc.isJsonItems_eq_true_iff.mp hd _ (List.of_mem_zip hmem).2
    · cases h
  · cases hd
  · cases h

theorem Entries.isJson_of_mem_occurrences {name : String} {fields : List (String × Doc)}
    (hfields : ∀ field ∈ fields, field.2.isJson = true) {start : Nat} {occurrence : Nat × Doc}
    (h : occurrence ∈ occurrences name start fields) : occurrence.2.isJson = true := by
  induction fields generalizing start with
  | nil => cases h
  | cons field rest ih =>
    obtain ⟨hfield, hrest⟩ := List.forall_mem_cons.mp hfields
    rw [occurrences] at h
    split at h
    · rcases List.mem_cons.mp h with rfl | h
      · exact hfield
      · exact ih hrest h
    · exact ih hrest h

/-- A field holds what its reader yields, or what stands for it when it is missing. -/
theorem Entries.read_yields {entries : Entries} (hentries : entries.IsJson) {name : String}
    {reader : Reader α} {missing : Option α} {P : α → Prop} (hreader : reader.Yields P)
    (hmissing : ∀ a ∈ missing, P a) {a : α} (h : entries.read name reader missing = .ok a) :
    P a := by
  rw [read.eq_def] at h
  split at h
  · split at h
    · cases h
      exact hmissing a rfl
    · cases h
  · rename_i place d hoccurrences
    cases hread : reader d with
    | error e =>
      rw [hread] at h
      cases h
    | ok b =>
      rw [hread] at h
      cases h
      exact hreader d a
        (isJson_of_mem_occurrences hentries (hoccurrences ▸ List.mem_singleton_self _)) hread
  · split at h <;> cases h

theorem Attempt.apply_eq_ok_iff {f : Attempt (α → β)} {x : Attempt α} {b : β} :
    f.apply x = .ok b ↔ ∃ g a, f = .ok g ∧ x = .ok a ∧ g a = b := by
  constructor
  · intro h
    cases f with
    | error e => cases x <;> cases h
    | ok g =>
      cases x with
      | error e => cases h
      | ok a => exact ⟨g, a, rfl, rfl, Except.ok.inj h⟩
  · rintro ⟨g, a, rfl, rfl, rfl⟩
    rfl

/-- Whatever is read from fields of JSON is so. -/
def Shape.Yields (shape : Shape α) (P : α → Prop) : Prop :=
  ∀ entries a, entries.IsJson → shape.read entries = .ok a → P a

namespace Shape.Yields

theorem make {a : α} {P : α → Prop} (h : P a) : (Shape.make a).Yields P := fun _ _ _ hread =>
  Except.ok.inj hread ▸ h

/-- A shape with a field more yields what it yields for all that this field may hold. -/
theorem field {shape : Shape (α → β)} {name : String} {reader : Reader α}
    {missing : Entries → Option α} {P : α → Prop} {Q : β → Prop} (hreader : reader.Yields P)
    (hmissing : ∀ entries, ∀ a ∈ missing entries, P a)
    (hshape : shape.Yields fun f => ∀ a, P a → Q (f a)) :
    (shape.field name reader missing).Yields Q := by
  intro entries b hentries hread
  obtain ⟨f, a, hf, ha, rfl⟩ := Attempt.apply_eq_ok_iff.mp hread
  exact hshape entries f hentries hf a (Entries.read_yields hentries hreader (hmissing entries) ha)

/-- A field of which nothing is asked. -/
theorem any {shape : Shape (α → β)} {name : String} {reader : Reader α}
    {missing : Entries → Option α} {Q : β → Prop} (hshape : shape.Yields fun f => ∀ a, Q (f a)) :
    (shape.field name reader missing).Yields Q :=
  field (P := fun _ => True) (fun _ _ _ _ => trivial) (fun _ _ _ => trivial)
    fun entries f hentries hf a _ => hshape entries f hentries hf a

/-- A field of which something is asked where it is neither missing nor null. -/
theorem optional {shape : Shape (Option α → β)} {name : String} {reader : Reader α} {P : α → Prop}
    {Q : β → Prop}
    (hreader : ∀ d a, d.isJson = true → d ≠ .scalar .null → reader d = .ok a → P a)
    (hshape : shape.Yields fun f => ∀ found : Option α, (∀ a ∈ found, P a) → Q (f found)) :
    (shape.optional name reader).Yields Q :=
  field (Reader.optional_yields hreader)
    (fun _ _ h => Option.some.inj h ▸ fun _ hmem => nomatch hmem) hshape

theorem map {shape : Shape α} {f : α → β} {Q : β → Prop} (h : shape.Yields fun a => Q (f a)) :
    (shape.map f).Yields Q := by
  intro entries b hentries hread
  simp only [Shape.map] at hread
  cases ha : shape.read entries with
  | error e =>
    rw [ha] at hread
    cases hread
  | ok a =>
    rw [ha] at hread
    cases hread
    exact h entries a hentries ha

theorem reader {shape : Shape α} {P : α → Prop} (h : shape.Yields P) : shape.reader.Yields P := by
  intro d a hd hread
  rw [Shape.reader] at hread
  split at hread
  · cases hread
  · rename_i entries hentries
    split at hread
    · cases hread
    · rename_i b hb
      split at hread
      · cases hread
      · cases hread
        exact h entries a (Entries.isJson_ofDoc? hd hentries) hb

end Shape.Yields

/-! ### Free-form values -/

/-- A value that stands for itself in an optional field: canonical, and not null. -/
def Json.Settled (value : Json) : Prop := value.canonical = true ∧ value ≠ .null

theorem Reader.value_settled (d : Doc) (value : Json) (hd : d.isJson = true)
    (hnull : d ≠ .scalar .null) (h : Reader.value d = .ok value) : value.Settled := by
  have hvalue : d.toJson? = some value := by
    rw [Reader.value, Reader.ofOption] at h
    split at h
    · rename_i a ha
      rw [ha, Except.ok.inj h]
    · cases h
  refine ⟨Doc.canonical_of_toJson? hd hvalue, ?_⟩
  rintro rfl
  exact hnull (Doc.eq_null_of_toJson? hd hvalue)

namespace Subscriber

/-- The free-form data of a subscriber is canonical and not null. -/
def Settled (s : Subscriber) : Prop := ∀ value ∈ s.data, value.Settled

theorem decode_yields : decode.Yields Settled :=
  Shape.Yields.reader <|
    .any <| .any <| .optional Reader.value_settled <| .any <| .any <| .any <| .any <| .any <|
      .any <| .make fun _ _ _ _ _ _ _ hdata _ _ => hdata

end Subscriber

namespace CurrentJob

/-- The payload of a job is canonical and not null. -/
def Settled (job : CurrentJob) : Prop := ∀ value ∈ job.payload, value.Settled

theorem decode_yields : decode.Yields Settled :=
  Shape.Yields.reader <|
    .optional Reader.value_settled <| .any <| .any <| .any <| .any <|
      .make fun _ _ _ _ _ hpayload => hpayload

end CurrentJob

namespace Context

/-- All free-form values of a context are canonical and not null. -/
structure Settled (ctx : Context) : Prop where
  subscriber : ∀ subscriber ∈ ctx.subscriber, subscriber.Settled
  payload : ∀ value ∈ ctx.payload, value.Settled
  tenant : ∀ value ∈ ctx.tenant, value.Settled
  job : ∀ job ∈ ctx.job, job.Settled

theorem decode_yields : decode.Yields Settled :=
  Shape.Yields.reader <|
    .optional (fun d a hd _ => CurrentJob.decode_yields d a hd) <| .any <| .any <| .any <|
      .any <| .optional Reader.value_settled <|
        .optional Reader.value_settled <|
          .optional (fun d a hd _ => Subscriber.decode_yields d a hd) <|
            .make fun _ hsubscriber _ hpayload _ htenant _ _ _ _ _ hjob =>
              ⟨hsubscriber, hpayload, htenant, hjob⟩

/-- So are those that the payload falls back on. -/
theorem Settled.payload_or {ctx : Context} (h : ctx.Settled) :
    ∀ value ∈ ctx.payload.or (ctx.job.bind CurrentJob.payload), value.Settled := by
  intro value hvalue
  rw [Option.mem_def, Option.or_eq_some_iff] at hvalue
  rcases hvalue with hvalue | ⟨-, hvalue⟩
  · exact h.payload value hvalue
  · obtain ⟨job, hjob, hvalue⟩ := Option.bind_eq_some_iff.mp hvalue
    exact h.job job hjob value hvalue

end Context

end DeliveryGate
