import DeliveryGate.Number.Binary64

/-!
# JSON values

A value is null, a boolean, an integer, a double, a string, an array or an object. Integers are the
numbers that fit 64 bits (signed or unsigned); every other number is a double, and `1` and `1.0` are
different values. A free-form object keeps its fields sorted by key, each key once: `insertField`
builds such lists, and `sorted` brings any value into that form. The objects that this library
writes itself list their fields in a fixed order of their own until they are sorted.
-/

namespace DeliveryGate

/-- A JSON value. -/
inductive Json where
  | null
  | bool (b : Bool)
  | int (n : Int)
  | double (x : Binary64)
  | str (s : String)
  | arr (items : List Json)
  | obj (fields : List (String × Json))
  deriving Inhabited

namespace Json

/-- Whether an integer fits 64 bits, signed or unsigned. -/
def isWord (n : Int) : Bool := -0x8000000000000000 ≤ n && n < 0x10000000000000000

/-- The integer itself where it fits 64 bits, else the nearest double. -/
def ofInt (n : Int) : Json := if isWord n then .int n else .double (Binary64.ofInt n)

/-- A double, or null where there is none. -/
def ofDouble (x : Binary64) : Json := if x.isFinite then .double x else .null

/-- A value that may be missing; null stands for the missing one. -/
def ofOption {α : Type} (f : α → Json) : Option α → Json
  | none => .null
  | some a => f a

/-- Put a field into a list sorted by key; a field with the same key is replaced. -/
def insertField (key : String) (value : Json) : List (String × Json) → List (String × Json)
  | [] => [(key, value)]
  | (k, v) :: rest =>
    if key < k then (key, value) :: (k, v) :: rest
    else if key == k then (key, value) :: rest
    else (k, v) :: insertField key value rest

/-- The fields sorted by key; of several with one key the last stays. -/
def sortFields (fields : List (String × Json)) : List (String × Json) :=
  fields.foldl (fun sorted field => insertField field.1 field.2 sorted) []

/-- The object with these fields, sorted by key. -/
def ofFields (fields : List (String × Json)) : Json := .obj (sortFields fields)

mutual

/-- The same value with the fields of every object sorted by key. -/
def sorted : Json → Json
  | .arr items => .arr (sortedItems items)
  | .obj fields => ofFields (sortedFields fields)
  | value => value

def sortedItems : List Json → List Json
  | [] => []
  | item :: rest => sorted item :: sortedItems rest

def sortedFields : List (String × Json) → List (String × Json)
  | [] => []
  | (key, value) :: rest => (key, sorted value) :: sortedFields rest

end

/-- The value of a field of an object. -/
def get? : Json → String → Option Json
  | .obj fields, key => fields.lookup key
  | _, _ => none

end Json

end DeliveryGate
