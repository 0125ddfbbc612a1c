/-!
# Operators

The fifteen comparisons a condition may ask for, and their names in documents and records.
-/

namespace DeliveryGate

/-- A comparison of an actual value with an authored text. -/
inductive Operator where
  | equal
  | notEqual
  | larger
  | smaller
  | largerEqual
  | smallerEqual
  | isDefined
  | isIn
  | notIn
  | anyIn
  | allIn
  | like
  | notLike
  | between
  | notBetween
  deriving DecidableEq, Repr

namespace Operator

/-- The operators with their names, in their order. -/
def names : List (String × Operator) :=
  [("EQUAL", .equal), ("NOT_EQUAL", .notEqual), ("LARGER", .larger), ("SMALLER", .smaller),
    ("LARGER_EQUAL", .largerEqual), ("SMALLER_EQUAL", .smallerEqual), ("IS_DEFINED", .isDefined),
    ("IN", .isIn), ("NOT_IN", .notIn), ("ANY_IN", .anyIn), ("ALL_IN", .allIn), ("LIKE", .like),
    ("NOT_LIKE", .notLike), ("BETWEEN", .between), ("NOT_BETWEEN", .notBetween)]

def name : Operator → String
  | .equal => "EQUAL"
  | .notEqual => "NOT_EQUAL"
  | .larger => "LARGER"
  | .smaller => "SMALLER"
  | .largerEqual => "LARGER_EQUAL"
  | .smallerEqual => "SMALLER_EQUAL"
  | .isDefined => "IS_DEFINED"
  | .isIn => "IN"
  | .notIn => "NOT_IN"
  | .anyIn => "ANY_IN"
  | .allIn => "ALL_IN"
  | .like => "LIKE"
  | .notLike => "NOT_LIKE"
  | .between => "BETWEEN"
  | .notBetween => "NOT_BETWEEN"

theorem lookup_name (operator : Operator) : names.lookup operator.name = some operator := by
  cases operator <;> decide

end Operator

end DeliveryGate
