import DeliveryGate.Evaluation.Context
import DeliveryGate.Text.Lowercase

/-!
# Usage summary

Which kinds of filter were evaluated, and which of them passed or failed, by label: the kind in
lower case, with one label for both presence kinds. `Usage.ofConditions` adds the conditions one by
one.
-/

namespace DeliveryGate

namespace Usage

def empty : Usage := ⟨[], [], []⟩

/-- The label under which a kind is reported. -/
def label (filter : String) : String :=
  let lowered := Text.lower filter
  if lowered == Text.lower Kind.isOnline.name || lowered == Text.lower Kind.isOnlineInLast.name then
    "online"
  else lowered

/-- The list with a label at its end, if it was not in it. -/
def insertOnce (label : String) (labels : List String) : List String :=
  if labels.contains label then labels else labels ++ [label]

/-- The summary with one condition more. -/
def add (usage : Usage) (condition : Condition) : Usage :=
  let name := label condition.filter
  { filters := insertOnce name usage.filters
    passedFilters :=
      if condition.passed then insertOnce name usage.passedFilters else usage.passedFilters
    failedFilters :=
      if condition.passed then usage.failedFilters else insertOnce name usage.failedFilters }

/-- The summary of a list of conditions. -/
def ofConditions (conditions : List Condition) : Usage := conditions.foldl add empty

end Usage

end DeliveryGate
