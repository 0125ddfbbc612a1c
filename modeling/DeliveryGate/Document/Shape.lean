import DeliveryGate.Document.Reader

/-!
# Records

A `Shape α` describes the fields of a record in order and how to build an `α` from them. The fields
may be given by name in any order, where unknown names are ignored and no name may stand twice, or
by position. Of several faults the one that stands first in the document is reported; what is
missing comes after everything that is there.
-/

namespace DeliveryGate

/-- A reading inside a record: a failure comes with the place of the field where it occurred. -/
def Attempt (α : Type) := Except (Nat × DecodeError) α

namespace Attempt

/-- Apply what was read on the left to what was read on the right; of two failures the one at the
earlier place stays. -/
def apply {α β : Type} : Attempt (α → β) → Attempt α → Attempt β
  | .ok f, .ok a => .ok (f a)
  | .error e, .ok _ => .error e
  | .ok _, .error e => .error e
  | .error e, .error e' => .error (if e'.1 < e.1 then e' else e)

end Attempt

/-- The fields of a record as they stand in a document. -/
structure Entries where
  /-- The known fields, in the order of the document. -/
  fields : List (String × Doc)
  /-- Whether the fields are given in order, without names. -/
  positional : Bool
  /-- Whether there are more items than fields. -/
  surplus : Bool

namespace Entries

/-- The name that a key denotes among these; a settled key may also give the place of the name.
The inner option is `none` for an unknown name. -/
def nameOfKey? (names : List String) : Doc → Option (Option String)
  | .scalar (.str s) => some (if names.contains s then some s else none)
  | .scalar (.int n) => if 0 ≤ n then some (names[n.toNat]?) else none
  | .lexeme l => some (if names.contains l.text then some l.text else none)
  | _ => none

/-- The fields with known names; `none` if a key is no name at all. -/
def named? (names : List String) : List (Doc × Doc) → Option (List (String × Doc))
  | [] => some []
  | (key, value) :: rest => do
    let name ← nameOfKey? names key
    let fields ← named? names rest
    some (match name with
      | some name => (name, value) :: fields
      | none => fields)

/-- The fields of a document that stands for a record with these names. -/
def ofDoc? (names : List String) : Doc → Option Entries
  | .record _ fields => (named? names fields).map fun fields => ⟨fields, false, false⟩
  | .list origin items =>
    if origin.isPositional then some ⟨names.zip items, true, names.length < items.length⟩ else none
  | .lexeme l => if l.isBlank then some ⟨[], false, false⟩ else none
  | _ => none

/-- The places and documents of a field, from `start` on. -/
def occurrences (name : String) (start : Nat) : List (String × Doc) → List (Nat × Doc)
  | [] => []
  | (n, d) :: rest =>
    if n == name then (start, d) :: occurrences name (start + 1) rest
    else occurrences name (start + 1) rest

/-- Read a field; `missing` is what stands for it when it is not there. -/
def read {α : Type} (entries : Entries) (name : String) (reader : Reader α)
    (missing : Option α) : Attempt α :=
  match occurrences name 0 entries.fields with
  | [] =>
    match missing with
    | some a => .ok a
    | none => .error (entries.fields.length, .malformed)
  | [(place, d)] => (reader d).mapError (place, ·)
  | (place, d) :: (again, _) :: _ =>
    match reader d with
    | .error e => .error (place, e)
    | .ok _ => .error (again, .malformed)

end Entries

/-- The fields of a record and what they make. -/
structure Shape (α : Type) where
  names : List String
  read : Entries → Attempt α

namespace Shape

/-- No field at all. -/
def make {α : Type} (a : α) : Shape α := ⟨[], fun _ => .ok a⟩

/-- The same fields making something else. -/
def map {α β : Type} (f : α → β) (shape : Shape α) : Shape β :=
  ⟨shape.names, fun entries => (shape.read entries).map f⟩

/-- A field more. -/
def field {α β : Type} (shape : Shape (α → β)) (name : String) (reader : Reader α)
    (missing : Entries → Option α) : Shape β :=
  ⟨shape.names ++ [name], fun entries =>
    (shape.read entries).apply (entries.read name reader (missing entries))⟩

/-- A field that must be given. -/
def required {α β : Type} (shape : Shape (α → β)) (name : String) (reader : Reader α) : Shape β :=
  shape.field name reader fun _ => none

/-- A field that has a default. -/
def defaulted {α β : Type} (shape : Shape (α → β)) (name : String) (default : α)
    (reader : Reader α) : Shape β :=
  shape.field name reader fun _ => some default

/-- A field that may be missing or null. -/
def optional {α β : Type} (shape : Shape (Option α → β)) (name : String) (reader : Reader α) :
    Shape β :=
  shape.field name reader.optional fun _ => some none

/-- A field that may be null, and missing only where the fields have names. -/
def nullable {α β : Type} (shape : Shape (Option α → β)) (name : String) (reader : Reader α) :
    Shape β :=
  shape.field name reader.optional fun entries => if entries.positional then none else some none

/-- Read a record. -/
def reader {α : Type} (shape : Shape α) : Reader α := fun d =>
  match Entries.ofDoc? shape.names d with
  | none => .error .malformed
  | some entries =>
    match shape.read entries with
    | .error (_, e) => .error e
    | .ok a => if entries.surplus then .error .malformed else .ok a

end Shape

end DeliveryGate
