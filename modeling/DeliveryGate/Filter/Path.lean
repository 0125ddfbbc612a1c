import DeliveryGate.Json.Value
import DeliveryGate.Number.Reading
import DeliveryGate.Text.Blank

/-!
# Field paths

A field of a structured value is named by a path: the segments between its dots, each a key of an
object or the index of an array item. The empty path names the value itself. `Json.follow?` walks a
list of segments, so a longer path is walked in two legs.
-/

namespace DeliveryGate

/-- The segments of a path; the empty path has none. -/
def segments (path : String) : List String :=
  if path.isEmpty then [] else (Text.splitOn '.' path.toList).map String.ofList

/-- The index that a segment gives: digits, leading zeros and one plus sign allowed. -/
def index? (segment : String) : Option Nat := Number.unsigned? 0x10000000000000000 segment.toList

namespace Json

/-- The part of a value that one segment names. -/
def child? (segment : String) : Json → Option Json
  | .obj fields => fields.lookup segment
  | .arr items => (index? segment).bind fun i => items[i]?
  | _ => none

/-- The part of a value that a list of segments names. -/
def follow? : List String → Json → Option Json
  | [], value => some value
  | segment :: rest, value => (child? segment value).bind (follow? rest)

/-- The part of a value that a path names. -/
def resolve? (value : Json) (path : String) : Option Json := follow? (segments path) value

theorem follow?_append (p q : List String) (value : Json) :
    follow? (p ++ q) value = (follow? p value).bind (follow? q) := by
  induction p generalizing value with
  | nil => rfl
  | cons segment rest ih =>
    simp only [List.cons_append, follow?]
    cases child? segment value with
    | none => rfl
    | some v => simpa using ih v

end Json

end DeliveryGate
