import DeliveryGate.Document.Shape
import DeliveryGate.Filter.Node

/-!
# Filter trees in documents

A node is a record whose field `on` names its kind; the other fields depend on the kind. It may also
be a list: the kind and then the fields in order. All parts of a node but its kind are read with
their types settled, whatever the format of the document.
-/

namespace DeliveryGate

namespace Operator

def toJson (operator : Operator) : Json := .str operator.name

def decode : Reader Operator := Reader.choice names

end Operator

namespace GroupOperator

def toJson (operator : GroupOperator) : Json := .str operator.name

def decode : Reader GroupOperator := Reader.choice names

end GroupOperator

namespace TimeUnit

def toJson (unit : TimeUnit) : Json := .str unit.name

def decode : Reader TimeUnit := Reader.choice names

end TimeUnit

namespace StepState

def toJson (state : StepState) : Json := .str state.name

def decode : Reader StepState := Reader.choice names

end StepState

namespace FieldTest

def fields (test : FieldTest) : List (String × Json) :=
  [("field", .str test.field), ("operator", test.operator.toJson), ("value", .str test.expected)]

end FieldTest

namespace Leaf

/-- The fields of a leaf besides its kind. -/
def fields : Leaf → List (String × Json)
  | .field _ test => test.fields
  | .webhook url test => ("webhookUrl", .str url) :: test.fields
  | .online expected => [("value", .bool expected)]
  | .onlineInLast window unit => [("value", .int window), ("timeOperator", unit.toJson)]
  | .previousStep step state => [("step", .str step), ("stepType", state.toJson)]

def toJson (leaf : Leaf) : Json := .obj (("on", .str leaf.kind.name) :: leaf.fields)

/-- The fields that follow in every leaf that compares a field. -/
def testShape {α : Type} (shape : Shape (String → Operator → String → α)) : Shape α :=
  shape
    |>.required "field" Reader.text
    |>.required "operator" Operator.decode
    |>.defaulted "value" "" Reader.scalarText

def fieldShape (source : Source) : Shape Leaf :=
  testShape (Shape.make fun field operator expected => .field source ⟨field, operator, expected⟩)

def webhookShape : Shape Leaf :=
  testShape
    (Shape.make (fun url field operator expected => Leaf.webhook url ⟨field, operator, expected⟩)
      |>.required "webhookUrl" Reader.text)

def onlineShape : Shape Leaf :=
  Shape.make Leaf.online |>.required "value" Reader.flag

def onlineInLastShape : Shape Leaf :=
  Shape.make Leaf.onlineInLast
    |>.required "value" Reader.integer
    |>.required "timeOperator" TimeUnit.decode

def previousStepShape : Shape Leaf :=
  Shape.make Leaf.previousStep
    |>.required "step" Reader.text
    |>.required "stepType" StepState.decode

end Leaf

namespace Node

mutual

/-- A node as JSON, its kind first. -/
def toJson : Node → Json
  | .leaf l => l.toJson
  | .group operator children =>
    .obj [("on", .str Kind.group.name), ("value", operator.toJson),
      ("children", .arr (listToJson children))]

def listToJson : List Node → List Json
  | [] => []
  | node :: rest => toJson node :: listToJson rest

end

/-- The kind that the value of `on` names; a settled one may also give the place of the kind. -/
def kindOfDoc? (origin : Origin) : Doc → Option Kind
  | .scalar (.str s) => Kind.names.lookup s
  | .scalar (.int n) =>
    if origin = .buffered && 0 ≤ n then (Kind.names[n.toNat]?).map Prod.snd else none
  | .lexeme l => Kind.names.lookup l.text
  | _ => none

/-- The values of the fields `on`, and the other fields with their types settled. -/
def splitKind? : List (Doc × Doc) → Option (List Doc × List (Doc × Doc))
  | [] => some ([], [])
  | (key, value) :: rest => do
    let key ← key.buffered?
    match key with
    | .scalar (.str "on") =>
      let (kinds, fields) ← splitKind? rest
      some (value :: kinds, fields)
    | key =>
      let value ← value.buffered?
      let (kinds, fields) ← splitKind? rest
      some (kinds, (key, value) :: fields)

/-- The kind of a node and its other parts with their types settled. -/
def split? : Doc → Option (Kind × Doc)
  | .record origin fields => do
    if !origin.isFree then none
    match ← splitKind? fields with
    | ([kind], fields) =>
      let kind ← kindOfDoc? origin kind
      some (kind, .record .buffered fields)
    | _ => none
  | .list origin (kind :: items) => do
    if !origin.isFree then none
    let kind ← kindOfDoc? origin kind
    let items ← Doc.bufferedItems? items
    some (kind, .list .buffered items)
  | _ => none

/-- The fields of a node of this kind, with a reading of its children. -/
def shape (child : Reader Node) : Kind → Shape Node
  | .group =>
    Shape.make Node.group
      |>.required "value" GroupOperator.decode
      |>.defaulted "children" [] (Reader.list child)
  | .payload => (Leaf.fieldShape .payload).map .leaf
  | .subscriber => (Leaf.fieldShape .subscriber).map .leaf
  | .tenant => (Leaf.fieldShape .tenant).map .leaf
  | .webhook => Leaf.webhookShape.map .leaf
  | .isOnline => Leaf.onlineShape.map .leaf
  | .isOnlineInLast => Leaf.onlineInLastShape.map .leaf
  | .previousStep => Leaf.previousStepShape.map .leaf

/-- Read a tree that is nested less than `depth` deep. -/
def decodeWithin : Nat → Reader Node
  | 0 => fun _ => .error .malformed
  | depth + 1 => fun d =>
    match split? d with
    | none => .error .malformed
    | some (kind, body) => (shape (decodeWithin depth) kind).reader body

/-- Read a filter tree. -/
def decode : Reader Node := fun d => decodeWithin d.height d

end Node

namespace Condition

def toJson (condition : Condition) : Json :=
  .obj [("filter", .str condition.filter), ("field", .str condition.field),
    ("expected", .str condition.expected), ("actual", .str condition.actual),
    ("operator", condition.operator.toJson), ("passed", .bool condition.passed)]

def shape : Shape Condition :=
  Shape.make Condition.mk
    |>.required "filter" Reader.text
    |>.required "field" Reader.text
    |>.required "expected" Reader.text
    |>.required "actual" Reader.text
    |>.required "operator" Operator.decode
    |>.required "passed" Reader.flag

def decode : Reader Condition := shape.reader

end Condition

end DeliveryGate
