import DeliveryGate.Document.Doc
import DeliveryGate.Proofs.Json.Canonical
import DeliveryGate.Proofs.Json.Numerals

/-!
# Values and their documents

A document of JSON (`Doc.isJson`) has settled scalars that a JSON text may denote, and nothing else;
the documents of texts are so (`Doc.isJson_ofRaw`). What is read from it as a free-form value is
canonical (`Doc.canonical_of_toJson?`), and a value is read back from its own document with its
fields sorted (`Doc.toJson?_ofJsonIn`), also after its types were settled once more
(`Doc.buffered?_ofJsonIn`). In other formats a scalar settles its type by how it looks; where that
is a string, it is the text as it is written (`Lexeme.eq_text_of_resolve?`).
-/

namespace DeliveryGate

theorem Json.ofDouble_of_isFinite {x : Binary64} (h : x.isFinite = true) :
    ofDouble x = .double x := if_pos h

/-! ### Lexemes -/

namespace Lexeme

variable {l : Lexeme} {text s : String}

theorem ofInteger?_ne_str (n : Int) : ofInteger? n ≠ some (.str s) := by
  intro h
  rw [ofInteger?] at h
  split at h <;> cases h

theorem eq_of_plainScalar? (h : plainScalar? text = some (.str s)) : s = text := by
  rw [plainScalar?] at h
  split at h
  · cases h
  · split at h
    · cases h
    · split at h
      · exact absurd h (ofInteger?_ne_str _)
      · -- no integer: digits behind a zero, a double, or any other text
        split at h
        · cases h
          rfl
        · split at h <;> cases h
          rfl

/-- A lexeme that is a string is the text that is written, whatever its style and its tag. -/
theorem eq_text_of_resolve? (h : l.resolve? = some (.str s)) : s = l.text := by
  rw [resolve?] at h
  split at h
  · split at h
    · exact eq_of_plainScalar? h
    · cases h
      rfl
  · obtain ⟨_, -, heq⟩ := Option.map_eq_some_iff.mp h
    cases heq
  · obtain ⟨n, -, hn⟩ := Option.bind_eq_some_iff.mp h
    exact absurd hn (ofInteger?_ne_str n)
  · obtain ⟨_, -, heq⟩ := Option.map_eq_some_iff.mp h
    cases heq
  · split at h <;> cases h
  · cases h
    rfl
  · cases h

end Lexeme

namespace Doc

open Json (isProper increasing)

/-! ### Documents of values -/

mutual

/-- The document of a JSON value, with lists and records of this origin. -/
def ofJsonIn (origin : Origin) : Json → Doc
  | .arr items => .list origin (ofJsonInItems origin items)
  | .obj fields => .record origin (ofJsonInFields origin fields)
  | .null => .scalar .null
  | .bool b => .scalar (.bool b)
  | .int n => .scalar (.int n)
  | .double x => .scalar (.double x)
  | .str s => .scalar (.str s)

def ofJsonInItems (origin : Origin) : List Json → List Doc
  | [] => []
  | item :: rest => ofJsonIn origin item :: ofJsonInItems origin rest

def ofJsonInFields (origin : Origin) : List (String × Json) → List (Doc × Doc)
  | [] => []
  | (key, value) :: rest =>
    (.scalar (.str key), ofJsonIn origin value) :: ofJsonInFields origin rest

end

mutual

theorem ofJsonIn_json : ∀ value : Json, ofJsonIn .json value = ofJson value
  | .arr items => by rw [ofJsonIn, ofJson, ofJsonInItems_json items]
  | .obj fields => by rw [ofJsonIn, ofJson, ofJsonInFields_json fields]
  | .null | .bool _ | .int _ | .double _ | .str _ => rfl

theorem ofJsonInItems_json : ∀ items : List Json, ofJsonInItems .json items = ofJsonItems items
  | [] => rfl
  | item :: rest => by
    rw [ofJsonInItems, ofJsonItems, ofJsonIn_json item, ofJsonInItems_json rest]

theorem ofJsonInFields_json : ∀ fields : List (String × Json),
    ofJsonInFields .json fields = ofJsonFields fields
  | [] => rfl
  | (key, value) :: rest => by
    rw [ofJsonInFields, ofJsonFields, ofJsonIn_json value, ofJsonInFields_json rest]

end

theorem ofJsonInItems_eq_map (origin : Origin) (items : List Json) :
    ofJsonInItems origin items = items.map (ofJsonIn origin) := by
  induction items with
  | nil => rfl
  | cons item rest ih => rw [ofJsonInItems, ih, List.map_cons]

theorem ofJsonInFields_eq_map (origin : Origin) (fields : List (String × Json)) :
    ofJsonInFields origin fields
      = fields.map fun field => (.scalar (.str field.1), ofJsonIn origin field.2) := by
  induction fields with
  | nil => rfl
  | cons field rest ih => rw [ofJsonInFields, ih, List.map_cons]

theorem height_le_itemsHeight {d : Doc} {items : List Doc} (h : d ∈ items) :
    d.height ≤ itemsHeight items := by
  induction items with
  | nil => cases h
  | cons item rest ih =>
    rw [itemsHeight]
    rcases List.mem_cons.mp h with rfl | h
    · exact Nat.le_max_left ..
    · exact (ih h).trans (Nat.le_max_right ..)

section

variable {origin : Origin}

mutual

/-- The marks of lists and records do not count for the height. -/
theorem height_ofJsonIn : ∀ value : Json,
    (ofJsonIn origin value).height = (ofJsonIn .buffered value).height
  | .arr items => by
    rw [ofJsonIn, ofJsonIn, height, height, itemsHeight_ofJsonInItems items]
  | .obj fields => by
    rw [ofJsonIn, ofJsonIn, height, height, fieldsHeight_ofJsonInFields fields]
  | .null | .bool _ | .int _ | .double _ | .str _ => rfl

theorem itemsHeight_ofJsonInItems : ∀ items : List Json,
    itemsHeight (ofJsonInItems origin items) = itemsHeight (ofJsonInItems .buffered items)
  | [] => rfl
  | item :: rest => by
    rw [ofJsonInItems, ofJsonInItems, itemsHeight, itemsHeight, height_ofJsonIn item,
      itemsHeight_ofJsonInItems rest]

theorem fieldsHeight_ofJsonInFields : ∀ fields : List (String × Json),
    fieldsHeight (ofJsonInFields origin fields) = fieldsHeight (ofJsonInFields .buffered fields)
  | [] => rfl
  | (key, value) :: rest => by
    rw [ofJsonInFields, ofJsonInFields, fieldsHeight, fieldsHeight, height_ofJsonIn value,
      fieldsHeight_ofJsonInFields rest]

end

mutual

/-- Settling the types of a value's document only marks its lists and records. -/
theorem buffered?_ofJsonIn (horigin : origin.isFree = true) : ∀ value : Json,
    (ofJsonIn origin value).buffered? = some (ofJsonIn .buffered value)
  | .arr items => by
    rw [ofJsonIn, ofJsonIn, buffered?, if_pos horigin, bufferedItems?_ofJsonIn horigin items]
    rfl
  | .obj fields => by
    rw [ofJsonIn, ofJsonIn, buffered?, if_pos horigin, bufferedFields?_ofJsonIn horigin fields]
    rfl
  | .null | .bool _ | .int _ | .double _ | .str _ => rfl

theorem bufferedItems?_ofJsonIn (horigin : origin.isFree = true) : ∀ items : List Json,
    bufferedItems? (ofJsonInItems origin items) = some (ofJsonInItems .buffered items)
  | [] => rfl
  | item :: rest => by
    rw [ofJsonInItems, ofJsonInItems, bufferedItems?, buffered?_ofJsonIn horigin item,
      bufferedItems?_ofJsonIn horigin rest]
    rfl

theorem bufferedFields?_ofJsonIn (horigin : origin.isFree = true) :
    ∀ fields : List (String × Json),
    bufferedFields? (ofJsonInFields origin fields) = some (ofJsonInFields .buffered fields)
  | [] => rfl
  | (key, value) :: rest => by
    rw [ofJsonInFields, ofJsonInFields, bufferedFields?, buffered?,
      buffered?_ofJsonIn horigin value, bufferedFields?_ofJsonIn horigin rest]
    rfl

end

mutual

/-- A value is read back from its document, with its fields sorted. -/
theorem toJson?_ofJsonIn (horigin : origin.isFree = true) : ∀ value : Json,
    value.proper = true → (ofJsonIn origin value).toJson? = some value.sorted
  | .arr items, h => by
    rw [ofJsonIn, toJson?, if_pos horigin, itemsToJson?_ofJsonIn horigin items h]
    rfl
  | .obj fields, h => by
    rw [Json.proper, Json.all, Bool.true_and] at h
    rw [ofJsonIn, toJson?, if_pos horigin, fieldsToJson?_ofJsonIn horigin fields h]
    rfl
  | .double x, h => by
    rw [ofJsonIn, toJson?, scalarToJson, Json.ofDouble_of_isFinite (x := x) h]
    rfl
  | .null, _ | .bool _, _ | .int _, _ | .str _, _ => rfl

theorem itemsToJson?_ofJsonIn (horigin : origin.isFree = true) : ∀ items : List Json,
    Json.allItems isProper (fun _ => true) items = true →
      itemsToJson? (ofJsonInItems origin items) = some (Json.sortedItems items)
  | [], _ => rfl
  | item :: rest, h => by
    rw [Json.allItems, Bool.and_eq_true] at h
    rw [ofJsonInItems, itemsToJson?, toJson?_ofJsonIn horigin item h.1,
      itemsToJson?_ofJsonIn horigin rest h.2]
    rfl

theorem fieldsToJson?_ofJsonIn (horigin : origin.isFree = true) :
    ∀ fields : List (String × Json), Json.allFields isProper (fun _ => true) fields = true →
      fieldsToJson? (ofJsonInFields origin fields) = some (Json.sortedFields fields)
  | [], _ => rfl
  | (key, value) :: rest, h => by
    rw [Json.allFields, Bool.and_eq_true] at h
    rw [ofJsonInFields, fieldsToJson?, toJson?_ofJsonIn horigin value h.1,
      fieldsToJson?_ofJsonIn horigin rest h.2]
    rfl

end

end

/-! ### Documents of JSON -/

mutual

/-- Whether a document may come from JSON: its scalars are settled and such that a JSON text may
denote them. A part that cannot be used may be broken. -/
def isJson : Doc → Bool
  | .scalar s => (match s with
    | .int n => Json.isWord n
    | .double x => x.isFinite
    | _ => true)
  | .lexeme _ => false
  | .list _ items => isJsonItems items
  | .record _ fields => isJsonFields fields
  | .broken => true

def isJsonItems : List Doc → Bool
  | [] => true
  | item :: rest => isJson item && isJsonItems rest

def isJsonFields : List (Doc × Doc) → Bool
  | [] => true
  | (_, value) :: rest => isJson value && isJsonFields rest

end

theorem isJsonItems_eq_true_iff {items : List Doc} :
    isJsonItems items = true ↔ ∀ item ∈ items, item.isJson = true := by
  induction items with
  | nil => simp [isJsonItems]
  | cons item rest ih => simp [isJsonItems, ih]

theorem isJsonFields_eq_true_iff {fields : List (Doc × Doc)} :
    isJsonFields fields = true ↔ ∀ field ∈ fields, field.2.isJson = true := by
  induction fields with
  | nil => simp [isJsonFields]
  | cons field rest ih => simp [isJsonFields, ih]

theorem isJson_ofPieces (pieces : List Json.Piece) : (ofPieces pieces).isJson = true := by
  rw [ofPieces]
  cases Json.charsOfPieces? pieces <;> rfl

theorem isJson_ofNumeral (n : Json.Numeral) : (ofNumeral n).isJson = true := by
  rw [ofNumeral]
  cases hvalue : n.value? with
  | none => rfl
  | some value =>
    rcases Json.Numeral.value?_cases hvalue with ⟨m, hm, rfl⟩ | ⟨x, hx, rfl⟩
    · exact hm
    · exact hx

mutual

/-- The document of a JSON text is one of JSON. -/
theorem isJson_ofRaw : ∀ (raw : Json.Raw) (depth : Nat), (ofRaw depth raw).isJson = true
  | .null, _ | .bool _, _ => rfl
  | .number n, _ => isJson_ofNumeral n
  | .string pieces, _ => isJson_ofPieces pieces
  | .array _, 0 | .object _, 0 => rfl
  | .array items, depth + 1 => isJsonItems_ofRawItems items depth
  | .object fields, depth + 1 => isJsonFields_ofRawFields fields depth

theorem isJsonItems_ofRawItems : ∀ (items : List Json.Raw) (depth : Nat),
    isJsonItems (ofRawItems depth items) = true
  | [], _ => rfl
  | item :: rest, depth => by
    rw [ofRawItems, isJsonItems, isJson_ofRaw item, isJsonItems_ofRawItems rest]
    rfl

theorem isJsonFields_ofRawFields : ∀ (fields : List (List Json.Piece × Json.Raw)) (depth : Nat),
    isJsonFields (ofRawFields depth fields) = true
  | [], _ => rfl
  | (_, raw) :: rest, depth => by
    rw [ofRawFields, isJsonFields, isJson_ofRaw raw, isJsonFields_ofRawFields rest]
    rfl

end

theorem buffered?_list_eq_some_iff {origin : Origin} {items : List Doc} {settled : Doc} :
    (list origin items).buffered? = some settled ↔ origin.isFree = true ∧
      ∃ docs, bufferedItems? items = some docs ∧ list .buffered docs = settled := by
  rw [buffered?, Option.ite_none_right_eq_some, Option.map_eq_some_iff]

theorem buffered?_record_eq_some_iff {origin : Origin} {fields : List (Doc × Doc)}
    {settled : Doc} : (record origin fields).buffered? = some settled ↔ origin.isFree = true ∧
      ∃ docs, bufferedFields? fields = some docs ∧ record .buffered docs = settled := by
  rw [buffered?, Option.ite_none_right_eq_some, Option.map_eq_some_iff]

mutual

/-- To settle the types of a document of JSON leaves one of JSON. -/
theorem isJson_of_buffered? : ∀ {d settled : Doc}, d.isJson = true → d.buffered? = some settled →
    settled.isJson = true
  | .scalar s, _, hd, h => by
    cases h
    exact hd
  | .lexeme _, _, hd, _ => nomatch hd
  | .list origin items, _, hd, h => by
    obtain ⟨-, docs, hdocs, rfl⟩ := buffered?_list_eq_some_iff.mp h
    exact isJsonItems_of_bufferedItems? hd hdocs
  | .record origin fields, _, hd, h => by
    obtain ⟨-, docs, hdocs, rfl⟩ := buffered?_record_eq_some_iff.mp h
    exact isJsonFields_of_bufferedFields? hd hdocs
  | .broken, _, _, h => nomatch h

theorem isJsonItems_of_bufferedItems? : ∀ {items docs : List Doc}, isJsonItems items = true →
    bufferedItems? items = some docs → isJsonItems docs = true
  | [], _, _, h => by
    cases h
    rfl
  | item :: rest, _, hitems, h => by
    rw [isJsonItems, Bool.and_eq_true] at hitems
    simp only [bufferedItems?, Option.bind_eq_bind, Option.bind_eq_some_iff] at h
    obtain ⟨d, hd, docs, hdocs, h⟩ := h
    cases h
    rw [isJsonItems, Bool.and_eq_true]
    exact ⟨isJson_of_buffered? hitems.1 hd, isJsonItems_of_bufferedItems? hitems.2 hdocs⟩

theorem isJsonFields_of_bufferedFields? : ∀ {fields docs : List (Doc × Doc)},
    isJsonFields fields = true → bufferedFields? fields = some docs → isJsonFields docs = true
  | [], _, _, h => by
    cases h
    rfl
  | (key, value) :: rest, _, hfields, h => by
    rw [isJsonFields, Bool.and_eq_true] at hfields
    simp only [bufferedFields?, Option.bind_eq_bind, Option.bind_eq_some_iff] at h
    obtain ⟨_, -, d, hd, docs, hdocs, h⟩ := h
    cases h
    rw [isJsonFields, Bool.and_eq_true]
    exact ⟨isJson_of_buffered? hfields.1 hd, isJsonFields_of_bufferedFields? hfields.2 hdocs⟩

end

/-- Only null itself is read as null. -/
theorem eq_null_of_toJson? {d : Doc} (hd : d.isJson = true) (h : d.toJson? = some .null) :
    d = .scalar .null := by
  cases d with
  | scalar s =>
    cases s with
    | double x =>
      rw [toJson?, scalarToJson, Json.ofDouble_of_isFinite (x := x) hd] at h
      cases h
    | null => rfl
    | _ => cases h
  | lexeme l => cases hd
  | list origin items =>
    rw [toJson?] at h
    split at h
    · obtain ⟨values, -, hvalues⟩ := Option.map_eq_some_iff.mp h
      cases hvalues
    · cases h
  | record origin fields =>
    rw [toJson?] at h
    split at h
    · obtain ⟨values, -, hvalues⟩ := Option.map_eq_some_iff.mp h
      cases hvalues
    · cases h
  | broken => cases h

mutual

/-- What is read from a document of JSON as a free-form value is canonical. -/
theorem canonical_of_toJson? : ∀ {d : Doc} {value : Json}, d.isJson = true →
    d.toJson? = some value → value.canonical = true
  | .scalar s, value, hd, h => by
    obtain rfl := Option.some.inj h
    cases s with
    | double x =>
      rw [scalarToJson, Json.ofDouble_of_isFinite (x := x) hd]
      exact hd
    | int n => exact hd
    | _ => rfl
  | .lexeme _, _, hd, _ => nomatch hd
  | .list origin items, value, hd, h => by
    rw [toJson?] at h
    split at h
    · obtain ⟨values, hvalues, rfl⟩ := Option.map_eq_some_iff.mp h
      exact canonical_of_itemsToJson? hd hvalues
    · cases h
  | .record origin fields, value, hd, h => by
    rw [toJson?] at h
    split at h
    · obtain ⟨values, hvalues, rfl⟩ := Option.map_eq_some_iff.mp h
      exact Json.canonical_ofFields (canonical_of_fieldsToJson? hd hvalues)
    · cases h
  | .broken, _, _, h => nomatch h

theorem canonical_of_itemsToJson? : ∀ {items : List Doc} {values : List Json},
    isJsonItems items = true → itemsToJson? items = some values →
      Json.allItems isProper increasing values = true
  | [], values, _, h => by
    cases h
    rfl
  | item :: rest, values, hitems, h => by
    rw [isJsonItems, Bool.and_eq_true] at hitems
    rw [itemsToJson?, Option.bind_eq_bind, Option.bind_eq_some_iff] at h
    obtain ⟨value, hvalue, h⟩ := h
    obtain ⟨more, hmore, h⟩ := Option.bind_eq_some_iff.mp h
    cases h
    rw [Json.allItems, Bool.and_eq_true]
    exact ⟨canonical_of_toJson? hitems.1 hvalue, canonical_of_itemsToJson? hitems.2 hmore⟩

theorem canonical_of_fieldsToJson? : ∀ {fields : List (Doc × Doc)}
    {values : List (String × Json)}, isJsonFields fields = true →
      fieldsToJson? fields = some values → Json.allFields isProper increasing values = true
  | [], values, _, h => by
    cases h
    rfl
  | (key, d) :: rest, values, hfields, h => by
    rw [isJsonFields, Bool.and_eq_true] at hfields
    rw [fieldsToJson?, Option.bind_eq_bind, Option.bind_eq_some_iff] at h
    obtain ⟨text, -, h⟩ := h
    obtain ⟨value, hvalue, h⟩ := Option.bind_eq_some_iff.mp h
    obtain ⟨more, hmore, h⟩ := Option.bind_eq_some_iff.mp h
    cases h
    rw [Json.allFields, Bool.and_eq_true]
    exact ⟨canonical_of_toJson? hfields.1 hvalue, canonical_of_fieldsToJson? hfields.2 hmore⟩

end

end Doc

end DeliveryGate
