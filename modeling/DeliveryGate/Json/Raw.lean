import DeliveryGate.Json.Numeral

/-!
# JSON texts

`Raw` is a JSON text as it is written: numbers keep their spelling, objects keep every field in the
order of the text. `Raw.parse?` reads a whole text by the grammar of JSON. What the grammar admits
but a value cannot hold is refused later and only where it is used, by `Raw.toJson?`: a number too
large for a double, an escape that names no character, more than `deepest` nested brackets.
-/

namespace DeliveryGate

namespace Json

/-- A part of a string: a character, or the UTF-16 unit of a `\u` escape. -/
inductive Piece where
  | char (c : Char)
  | unit (n : Nat)
  deriving DecidableEq

/-- The characters of a string; `none` if a surrogate stands without its partner. -/
def charsOfPieces? : List Piece → Option (List Char)
  | [] => some []
  | .char c :: rest => (charsOfPieces? rest).map (c :: ·)
  | .unit n :: rest =>
    if n < 0xD800 || 0xDFFF < n then (charsOfPieces? rest).map (Char.ofNat n :: ·)
    else match rest with
      | .unit m :: rest =>
        if n < 0xDC00 && 0xDC00 ≤ m && m ≤ 0xDFFF then
          (charsOfPieces? rest).map
            (Char.ofNat (0x10000 + (n - 0xD800) * 0x400 + (m - 0xDC00)) :: ·)
        else none
      | _ => none

/-- A JSON text as it is written. -/
inductive Raw where
  | null
  | bool (b : Bool)
  | number (n : Numeral)
  | string (pieces : List Piece)
  | array (items : List Raw)
  | object (fields : List (List Piece × Raw))

namespace Raw

/-- The blanks of JSON: space, tab, line feed and carriage return. -/
def isSpace (c : Char) : Bool := c == ' ' || c == '\t' || c == '\n' || c == '\r'

def skipSpace (cs : List Char) : List Char := cs.dropWhile isSpace

/-- The character that a one-letter escape names. -/
def unescape? : Char → Option Char
  | '"' => some '"'
  | '\\' => some '\\'
  | '/' => some '/'
  | 'b' => some (Char.ofNat 8)
  | 'f' => some (Char.ofNat 12)
  | 'n' => some '\n'
  | 'r' => some '\r'
  | 't' => some '\t'
  | _ => none

/-- The rest of a string behind its opening quote, and what follows the closing one. -/
def stringBody? : List Char → Option (List Piece × List Char)
  | [] => none
  | '"' :: rest => some ([], rest)
  | '\\' :: 'u' :: a :: b :: c :: d :: rest => do
    let n ← Number.ofDigitsIn? 16 [a, b, c, d]
    let (pieces, rest) ← stringBody? rest
    some (.unit n :: pieces, rest)
  | '\\' :: c :: rest => do
    let e ← unescape? c
    let (pieces, rest) ← stringBody? rest
    some (.char e :: pieces, rest)
  | c :: rest => do
    if c.toNat < 32 then none
    let (pieces, rest) ← stringBody? rest
    some (.char c :: pieces, rest)

mutual

/-- The value in front of a text, and the rest; `fuel` exceeds the number of characters. -/
def value? : Nat → List Char → Option (Raw × List Char)
  | 0, _ => none
  | fuel + 1, cs =>
    match skipSpace cs with
    | 'n' :: 'u' :: 'l' :: 'l' :: rest => some (.null, rest)
    | 't' :: 'r' :: 'u' :: 'e' :: rest => some (.bool true, rest)
    | 'f' :: 'a' :: 'l' :: 's' :: 'e' :: rest => some (.bool false, rest)
    | '"' :: rest => (stringBody? rest).map fun (pieces, rest) => (.string pieces, rest)
    | '[' :: rest =>
      match skipSpace rest with
      | ']' :: rest => some (.array [], rest)
      | rest => do
        let (item, rest) ← value? fuel rest
        let (items, rest) ← items? fuel rest
        some (.array (item :: items), rest)
    | '{' :: rest =>
      match skipSpace rest with
      | '}' :: rest => some (.object [], rest)
      | rest => do
        let (field, rest) ← field? fuel rest
        let (fields, rest) ← fields? fuel rest
        some (.object (field :: fields), rest)
    | rest => (Numeral.read? rest).map fun (n, rest) => (.number n, rest)

/-- The items of an array after the first, up to the closing bracket. -/
def items? : Nat → List Char → Option (List Raw × List Char)
  | 0, _ => none
  | fuel + 1, cs =>
    match skipSpace cs with
    | ']' :: rest => some ([], rest)
    | ',' :: rest => do
      let (item, rest) ← value? fuel rest
      let (items, rest) ← items? fuel rest
      some (item :: items, rest)
    | _ => none

/-- A key, a colon and a value. -/
def field? : Nat → List Char → Option ((List Piece × Raw) × List Char)
  | 0, _ => none
  | fuel + 1, cs =>
    match skipSpace cs with
    | '"' :: rest => do
      let (key, rest) ← stringBody? rest
      match skipSpace rest with
      | ':' :: rest =>
        let (value, rest) ← value? fuel rest
        some ((key, value), rest)
      | _ => none
    | _ => none

/-- The fields of an object after the first, up to the closing brace. -/
def fields? : Nat → List Char → Option (List (List Piece × Raw) × List Char)
  | 0, _ => none
  | fuel + 1, cs =>
    match skipSpace cs with
    | '}' :: rest => some ([], rest)
    | ',' :: rest => do
      let (field, rest) ← field? fuel rest
      let (fields, rest) ← fields? fuel rest
      some (field :: fields, rest)
    | _ => none

end

/-- Read a whole text. -/
def parse? (text : String) : Option Raw :=
  let cs := text.toList
  match value? (2 * cs.length + 2) cs with
  | some (raw, rest) => if (skipSpace rest).isEmpty then some raw else none
  | none => none

/-- The greatest number of brackets that may be open at one place. -/
def deepest : Nat := 127

mutual

/-- The value of a text in which at most `depth` brackets may be open at one place. -/
def toJsonWithin? (depth : Nat) : Raw → Option Json
  | .null => some .null
  | .bool b => some (.bool b)
  | .number n => n.value?
  | .string pieces => (charsOfPieces? pieces).map fun cs => .str (String.ofList cs)
  | .array items =>
    match depth with
    | 0 => none
    | depth + 1 => (itemsToJson? depth items).map .arr
  | .object fields =>
    match depth with
    | 0 => none
    | depth + 1 => (fieldsToJson? depth fields).map Json.ofFields

def itemsToJson? (depth : Nat) : List Raw → Option (List Json)
  | [] => some []
  | item :: rest => do
    let value ← toJsonWithin? depth item
    let values ← itemsToJson? depth rest
    some (value :: values)

def fieldsToJson? (depth : Nat) : List (List Piece × Raw) → Option (List (String × Json))
  | [] => some []
  | (key, raw) :: rest => do
    let cs ← charsOfPieces? key
    let value ← toJsonWithin? depth raw
    let fields ← fieldsToJson? depth rest
    some ((String.ofList cs, value) :: fields)

end

/-- The value of a text: of several fields with one key the last counts. -/
def toJson? (raw : Raw) : Option Json := toJsonWithin? deepest raw

end Raw

/-- Read a whole text as a value. -/
def parse? (text : String) : Option Json := (Raw.parse? text).bind Raw.toJson?

end Json

end DeliveryGate
