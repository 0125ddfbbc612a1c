import DeliveryGate.Document.Doc
import DeliveryGate.Json.Printer
import DeliveryGate.Time.Timestamp

/-!
# Typed readings of a document

A `Reader α` takes a document for an `α` or says why it cannot. The readers here are those of single
values; the fields of a record are described by a `Shape`.
-/

namespace DeliveryGate

/-- Why a document is not what its place asks for. -/
inductive DecodeError where
  | malformed
  /-- A list or object stands where a filter value must be a scalar. -/
  | notScalar (value : Json)

namespace DecodeError

/-- The text for the reader of the document; a malformed document has none of its own. -/
def message? : DecodeError → Option String
  | .malformed => none
  | .notScalar value => some ("expected a scalar filter value, got " ++ value.compact)

end DecodeError

/-- A typed reading of a document. -/
abbrev Reader (α : Type) := Doc → Except DecodeError α

namespace Reader

/-- A reading that fails without a text of its own. -/
def ofOption {α : Type} (f : Doc → Option α) : Reader α := fun d =>
  match f d with
  | some a => .ok a
  | none => .error .malformed

/-- A text. -/
def text : Reader String := ofOption fun
  | .scalar (.str s) => some s
  | .lexeme l => some l.text
  | _ => none

/-- A boolean. -/
def flag : Reader Bool := ofOption fun
  | .scalar (.bool b) => some b
  | .lexeme l => l.flag?
  | _ => none

/-- An integer of 64 bits with sign. -/
def integer : Reader Int := ofOption fun
  | .scalar (.int n) => if -0x8000000000000000 ≤ n && n < 0x8000000000000000 then some n else none
  | _ => none

/-- A free-form value. -/
def value : Reader Json := ofOption Doc.toJson?

/-- An instant, written as text. -/
def instant : Reader Instant := fun d =>
  match text d with
  | .error e => .error e
  | .ok s => ofOption (fun _ => Instant.parse? s) d

/-- The variant that a settled key names, by its name or by its place. -/
def variantOfKey? {α : Type} (variants : List (String × α)) : Doc → Option α
  | .scalar (.str s) => variants.lookup s
  | .scalar (.int n) => if 0 ≤ n then (variants[n.toNat]?).map Prod.snd else none
  | _ => none

/-- One of several variants: its name, or a record with the name as its one key and nothing as its
value. A name that the document marks as a tag has nothing but null behind it. -/
def choice {α : Type} (variants : List (String × α)) : Reader α := ofOption fun
  | .scalar (.str s) => variants.lookup s
  | .lexeme l => l.variant?.bind fun name => variants.lookup name
  | .record .json [(.scalar (.str s), .scalar .null)] => variants.lookup s
  | .record .buffered [(key, .scalar .null)] => variantOfKey? variants key
  | .record .buffered [(key, .record _ [])] => variantOfKey? variants key
  | _ => none

/-- The items of a list, each read in turn; the first that cannot be read decides. -/
def items {α : Type} (reader : Reader α) : List Doc → Except DecodeError (List α)
  | [] => .ok []
  | d :: rest =>
    match reader d with
    | .error e => .error e
    | .ok a => (items reader rest).map (a :: ·)

/-- A list. -/
def list {α : Type} (reader : Reader α) : Reader (List α)
  | .list _ docs => items reader docs
  | .lexeme l => if l.isBlank then .ok [] else .error .malformed
  | _ => .error .malformed

/-- A value that is unset when it is null. -/
def optional {α : Type} (reader : Reader α) : Reader (Option α)
  | .scalar .null => .ok none
  | .lexeme l =>
    match l.isAbsent? with
    | some true => .ok none
    | some false => (reader (.lexeme l)).map some
    | none => .error .malformed
  | d => (reader d).map some

/-- The text of a filter value that may be given as any scalar: null is the empty text. -/
def scalarText : Reader String := fun d =>
  match d.toJson? with
  | none => .error .malformed
  | some .null => .ok ""
  | some (.str s) => .ok s
  | some (.bool b) => .ok (Json.bool b).compact
  | some (.int n) => .ok (Json.int n).compact
  | some (.double x) => .ok (Json.double x).compact
  | some value => .error (.notScalar value)

end Reader

end DeliveryGate
