import DeliveryGate.Filter.Comparison

/-!
# Conditions

A condition is the record of one evaluated leaf of a filter tree: what was compared with what, and
whether it passed.
-/

namespace DeliveryGate

/-- The record of one evaluated leaf. -/
structure Condition where
  /-- The kind of the leaf. -/
  filter : String
  field : String
  expected : String
  actual : String
  operator : Operator
  passed : Bool
  deriving DecidableEq

/-- A field, how to compare it, and with what. -/
structure FieldTest where
  field : String
  operator : Operator
  expected : String
  deriving DecidableEq

namespace FieldTest

/-- Look the field up in a source, compare it and record the outcome under a label. -/
def check (test : FieldTest) (label : String) (source : Option Json) : Condition :=
  let actual := source.bind fun value => value.resolve? test.field
  { filter := label
    field := test.field
    expected := test.expected
    actual := actualText actual
    operator := test.operator
    passed := test.operator.holds actual test.expected }

end FieldTest

end DeliveryGate
