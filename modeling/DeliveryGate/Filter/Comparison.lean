import DeliveryGate.Filter.Operator
import DeliveryGate.Filter.Path
import DeliveryGate.Json.Printer
import DeliveryGate.Json.Raw

/-!
# Comparing values with authored texts

The authored side of a condition is a text; the actual side is any JSON value, or nothing where a
path leads nowhere. Each family of operators brings both to one form: equality, membership and
likeness compare texts (`Json.text`), order and ranges compare doubles (`Json.number?`), lists are
read from the text by `Authored.list`, and `isDefined` only asks whether there is a value.
-/

namespace DeliveryGate

namespace Json

/-- The text of a value: a string as it is, anything else as compact JSON. -/
def text : Json → String
  | .str s => s
  | value => value.compact

end Json

/-- The text of a value, or the word for a missing one. -/
def actualText : Option Json → String
  | none => "undefined"
  | some value => value.text

namespace Authored

/-- The number that an authored text denotes, blanks around it ignored. NaN is no number. -/
def number? (text : String) : Option Binary64 :=
  (Number.double? (Text.trim text.toList)).filter fun x => !x.isNaN

/-- The items of a text between commas, without blanks around them and without empty ones. -/
def commaItems (cs : List Char) : List String :=
  (((Text.splitOn ',' cs).map Text.trim).filter fun item => !item.isEmpty).map String.ofList

/-- The items of an authored list: those of a JSON array, or else those between commas. -/
def list (text : String) : List String :=
  let trimmed := Text.trim text.toList
  match trimmed with
  | '[' :: _ =>
    match Json.parse? (String.ofList trimmed) with
    | some (.arr items) => items.map Json.text
    | _ => commaItems trimmed
  | _ => commaItems trimmed

end Authored

namespace Json

/-- The number that a value denotes: a number, a boolean as one or zero, or a numeric string. -/
def number? : Json → Option Binary64
  | .int n => some (Binary64.ofInt n)
  | .double x => some x
  | .bool b => some (Binary64.ofNat (if b then 1 else 0))
  | .str s => Authored.number? s
  | _ => none

end Json

/-- Whether a list of characters occurs in another one. -/
def occursIn (part : List Char) : List Char → Bool
  | [] => part.isEmpty
  | c :: rest => part.isPrefixOf (c :: rest) || occursIn part rest

namespace Operator

/-- Whether the text of an actual value is the expected one. -/
def textEqual (actual : Option Json) (expected : String) : Bool :=
  match actual with
  | none => false
  | some value => value.text == expected

/-- Whether both sides are numbers in this relation. -/
def numbersRelated (actual : Option Json) (expected : String)
    (related : Binary64 → Binary64 → Bool) : Bool :=
  match actual.bind Json.number?, Authored.number? expected with
  | some a, some b => related a b
  | _, _ => false

/-- Whether the text of an actual value is in the expected list. -/
def memberOf (actual : Option Json) (expected : String) : Bool :=
  match actual with
  | none => false
  | some value => (Authored.list expected).contains value.text

/-- Whether an actual array holds some item of the expected list. -/
def holdsAny (actual : Option Json) (expected : String) : Bool :=
  match actual with
  | some (.arr items) =>
    (Authored.list expected).any fun wanted => (items.map Json.text).contains wanted
  | _ => false

/-- Whether an actual array holds every item of the expected list, which is not empty. -/
def holdsAll (actual : Option Json) (expected : String) : Bool :=
  match actual with
  | some (.arr items) =>
    let wanted := Authored.list expected
    !wanted.isEmpty && wanted.all fun item => (items.map Json.text).contains item
  | _ => false

/-- Whether the text of an actual value contains the expected one. -/
def textContains (actual : Option Json) (expected : String) : Bool :=
  match actual with
  | none => false
  | some value => occursIn expected.toList value.text.toList

/-- Whether an actual number lies between the two items of the expected list, ends included. -/
def within (actual : Option Json) (expected : String) : Bool :=
  match Authored.list expected with
  | [low, high] =>
    match actual.bind Json.number?, Authored.number? low, Authored.number? high with
    | some x, some l, some h => l.le x && x.le h
    | _, _, _ => false
  | _ => false

/-- Whether an actual value passes the comparison with an authored text. -/
def holds (operator : Operator) (actual : Option Json) (expected : String) : Bool :=
  match operator with
  | .equal => textEqual actual expected
  | .notEqual => !textEqual actual expected
  | .larger => numbersRelated actual expected fun a b => b.lt a
  | .smaller => numbersRelated actual expected Binary64.lt
  | .largerEqual => numbersRelated actual expected fun a b => b.le a
  | .smallerEqual => numbersRelated actual expected Binary64.le
  | .isDefined => actual.isSome
  | .isIn => memberOf actual expected
  | .notIn => !memberOf actual expected
  | .anyIn => holdsAny actual expected
  | .allIn => holdsAll actual expected
  | .like => textContains actual expected
  | .notLike => !textContains actual expected
  | .between => within actual expected
  | .notBetween => !within actual expected

end Operator

end DeliveryGate
