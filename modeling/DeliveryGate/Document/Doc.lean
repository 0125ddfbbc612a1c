import DeliveryGate.Document.Lexeme
import DeliveryGate.Json.Raw

/-!
# Documents

`Doc` is what a reader of settings and fixtures sees of a document, whatever its format: scalars,
lists and records with their fields in the order in which they stand, none removed. A part that
cannot be used although the document as a whole can be read is `broken`; it does no harm where it is
ignored. `Doc.buffered?` is the form in which the nodes of a filter tree are read: every scalar has
settled its type before its place is known.
-/

namespace DeliveryGate

/-- Where a list or record comes from, which decides what else it may stand for. -/
inductive Origin where
  | json
  | buffered
  | yaml (tag : Option String)
  deriving DecidableEq

namespace Origin

/-- Whether a list may give the fields of a record in order. -/
def isPositional : Origin → Bool
  | .json => true
  | .buffered => true
  | .yaml _ => false

/-- Whether a list or record is a value on its own: a tag of its own makes it a variant instead. -/
def isFree : Origin → Bool
  | .yaml (some _) => false
  | _ => true

end Origin

/-- A document. -/
inductive Doc where
  | scalar (s : Scalar)
  | lexeme (l : Lexeme)
  | list (origin : Origin) (items : List Doc)
  | record (origin : Origin) (fields : List (Doc × Doc))
  | broken

namespace Doc

/-! ### From JSON -/

mutual

/-- The document of a JSON value. -/
def ofJson : Json → Doc
  | .null => .scalar .null
  | .bool b => .scalar (.bool b)
  | .int n => .scalar (.int n)
  | .double x => .scalar (.double x)
  | .str s => .scalar (.str s)
  | .arr items => .list .json (ofJsonItems items)
  | .obj fields => .record .json (ofJsonFields fields)

def ofJsonItems : List Json → List Doc
  | [] => []
  | item :: rest => ofJson item :: ofJsonItems rest

def ofJsonFields : List (String × Json) → List (Doc × Doc)
  | [] => []
  | (key, value) :: rest => (.scalar (.str key), ofJson value) :: ofJsonFields rest

end

/-- The document of a string in a JSON text. -/
def ofPieces (pieces : List Json.Piece) : Doc :=
  match Json.charsOfPieces? pieces with
  | some cs => .scalar (.str (String.ofList cs))
  | none => .broken

/-- The document of a numeral in a JSON text. -/
def ofNumeral (n : Json.Numeral) : Doc :=
  match n.value? with
  | some value => ofJson value
  | none => .broken

mutual

/-- The document of a JSON text in which at most `depth` brackets may be open at one place. -/
def ofRaw (depth : Nat) : Json.Raw → Doc
  | .null => .scalar .null
  | .bool b => .scalar (.bool b)
  | .number n => ofNumeral n
  | .string pieces => ofPieces pieces
  | .array items =>
    match depth with
    | 0 => .broken
    | depth + 1 => .list .json (ofRawItems depth items)
  | .object fields =>
    match depth with
    | 0 => .broken
    | depth + 1 => .record .json (ofRawFields depth fields)

def ofRawItems (depth : Nat) : List Json.Raw → List Doc
  | [] => []
  | item :: rest => ofRaw depth item :: ofRawItems depth rest

def ofRawFields (depth : Nat) : List (List Json.Piece × Json.Raw) → List (Doc × Doc)
  | [] => []
  | (key, raw) :: rest => (ofPieces key, ofRaw depth raw) :: ofRawFields depth rest

end

/-! ### Values -/

/-- The value of a scalar; a double that is not finite has none but null. -/
def scalarToJson : Scalar → Json
  | .null => .null
  | .bool b => .bool b
  | .int n => .int n
  | .double x => Json.ofDouble x
  | .str s => .str s

/-- A key of a free-form record as text. -/
def keyText? : Doc → Option String
  | .scalar (.str s) => some s
  | .lexeme l => some l.text
  | _ => none

mutual

/-- A document as a value of its own: of several fields with one key the last counts. -/
def toJson? : Doc → Option Json
  | .scalar s => some (scalarToJson s)
  | .lexeme l => l.resolve?.map scalarToJson
  | .list origin items => if origin.isFree then (itemsToJson? items).map .arr else none
  | .record origin fields =>
    if origin.isFree then (fieldsToJson? fields).map Json.ofFields else none
  | .broken => none

def itemsToJson? : List Doc → Option (List Json)
  | [] => some []
  | item :: rest => do
    let value ← toJson? item
    let values ← itemsToJson? rest
    some (value :: values)

def fieldsToJson? : List (Doc × Doc) → Option (List (String × Json))
  | [] => some []
  | (key, doc) :: rest => do
    let text ← keyText? key
    let value ← toJson? doc
    let fields ← fieldsToJson? rest
    some ((text, value) :: fields)

end

/-! ### Settled types -/

mutual

/-- The document with every scalar settled; `none` if a part of it is no value. -/
def buffered? : Doc → Option Doc
  | .scalar s => some (.scalar s)
  | .lexeme l => l.resolve?.map .scalar
  | .list origin items =>
    if origin.isFree then (bufferedItems? items).map (.list .buffered) else none
  | .record origin fields =>
    if origin.isFree then (bufferedFields? fields).map (.record .buffered) else none
  | .broken => none

def bufferedItems? : List Doc → Option (List Doc)
  | [] => some []
  | item :: rest => do
    let doc ← buffered? item
    let docs ← bufferedItems? rest
    some (doc :: docs)

def bufferedFields? : List (Doc × Doc) → Option (List (Doc × Doc))
  | [] => some []
  | (key, value) :: rest => do
    let key ← buffered? key
    let value ← buffered? value
    let fields ← bufferedFields? rest
    some ((key, value) :: fields)

end

mutual

/-- How deep lists and records are nested, a scalar counting one. -/
def height : Doc → Nat
  | .list _ items => itemsHeight items + 1
  | .record _ fields => fieldsHeight fields + 1
  | _ => 1

def itemsHeight : List Doc → Nat
  | [] => 0
  | item :: rest => max (height item) (itemsHeight rest)

def fieldsHeight : List (Doc × Doc) → Nat
  | [] => 0
  | (_, value) :: rest => max (height value) (fieldsHeight rest)

end

end Doc

/-- The document of a JSON text. -/
def Json.Raw.toDoc (raw : Json.Raw) : Doc := Doc.ofRaw Json.Raw.deepest raw

end DeliveryGate
