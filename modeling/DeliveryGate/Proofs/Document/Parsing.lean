import DeliveryGate.Proofs.Document.Values
import DeliveryGate.Proofs.Json.Order
import DeliveryGate.Proofs.Json.Text

/-!
# Values read from texts

A text may be read as a value in one go, or as a document first and this as a value: both give the
same (`Doc.toJson?_ofRaw`). So a canonical value is read back from its text, if no number in it is a
double and its brackets are not nested too deep (`Json.parse?_write`).
-/

namespace DeliveryGate

namespace Doc

theorem toJson?_ofPieces (pieces : List Json.Piece) :
    (ofPieces pieces).toJson?
      = (Json.charsOfPieces? pieces).map fun cs => .str (String.ofList cs) := by
  rw [ofPieces]
  cases Json.charsOfPieces? pieces <;> rfl

theorem keyText?_ofPieces (pieces : List Json.Piece) :
    keyText? (ofPieces pieces) = (Json.charsOfPieces? pieces).map String.ofList := by
  rw [ofPieces]
  cases Json.charsOfPieces? pieces <;> rfl

theorem toJson?_ofNumeral (n : Json.Numeral) : (ofNumeral n).toJson? = n.value? := by
  rw [ofNumeral]
  cases hvalue : n.value? with
  | none => rfl
  | some value =>
    rcases Json.Numeral.value?_cases hvalue with ⟨m, -, rfl⟩ | ⟨x, hx, rfl⟩
    · rfl
    · exact congrArg some (Json.ofDouble_of_isFinite hx)

mutual

/-- The value of a text is the value of its document. -/
theorem toJson?_ofRaw : ∀ (raw : Json.Raw) (depth : Nat),
    (ofRaw depth raw).toJson? = raw.toJsonWithin? depth
  | .null, _ | .bool _, _ => rfl
  | .number n, _ => toJson?_ofNumeral n
  | .string pieces, _ => toJson?_ofPieces pieces
  | .array _, 0 | .object _, 0 => rfl
  | .array items, depth + 1 => by
    rw [ofRaw, toJson?, if_pos (show Origin.json.isFree = true from rfl),
      itemsToJson?_ofRawItems items depth]
    rfl
  | .object fields, depth + 1 => by
    rw [ofRaw, toJson?, if_pos (show Origin.json.isFree = true from rfl),
      fieldsToJson?_ofRawFields fields depth]
    rfl

theorem itemsToJson?_ofRawItems : ∀ (items : List Json.Raw) (depth : Nat),
    itemsToJson? (ofRawItems depth items) = Json.Raw.itemsToJson? depth items
  | [], _ => rfl
  | item :: rest, depth => by
    rw [ofRawItems, itemsToJson?, toJson?_ofRaw item, itemsToJson?_ofRawItems rest]
    rfl

theorem fieldsToJson?_ofRawFields : ∀ (fields : List (List Json.Piece × Json.Raw)) (depth : Nat),
    fieldsToJson? (ofRawFields depth fields) = Json.Raw.fieldsToJson? depth fields
  | [], _ => rfl
  | (key, raw) :: rest, depth => by
    rw [ofRawFields, fieldsToJson?, keyText?_ofPieces, toJson?_ofRaw raw,
      fieldsToJson?_ofRawFields rest, Json.Raw.fieldsToJson?]
    cases Json.charsOfPieces? key <;> rfl

end

end Doc

namespace Json

variable {value : Json}

/-- A canonical value is read back from its text, however this is laid out. -/
theorem parse?_write (layout : Layout) (hcanonical : value.canonical = true)
    (hdouble : value.doubleFree = true) (hnesting : value.nesting ≤ Raw.deepest) :
    parse? (String.ofList (layout.write 0 value)) = some value := by
  have hproper := (tidy_iff.mp (tidy_of_canonical hcanonical)).1
  obtain ⟨raw, hparse, hdoc⟩ := Raw.parse?_write layout (legible_of_proper hproper hdouble) hnesting
  have hvalue : raw.toJson? = raw.toDoc.toJson? := (Doc.toJson?_ofRaw raw Raw.deepest).symm
  rw [parse?, hparse, Option.bind_some, hvalue, hdoc, ← Doc.ofJsonIn_json,
    Doc.toJson?_ofJsonIn rfl value hproper, sorted_of_canonical hcanonical]

end Json

end DeliveryGate
