import DeliveryGate.Proofs.Search.Match
import DeliveryGate.Store.Memory

/-!
# What was inserted

Jobs, messages and opened events are kept as they were inserted (`jobs_ofRows` and its siblings), so
that a lookup finds the first inserted row it is about (`find?_eq_some_iff_isFirst`).
-/

namespace DeliveryGate

namespace Store

namespace Row

def job? : Row → Option Job
  | .job row => some row
  | _ => none

def message? : Row → Option Message
  | .message row => some row
  | _ => none

def openedEvent? : Row → Option OpenedEvent
  | .openedEvent row => some row
  | _ => none

end Row

/-! ### Tables in the order of insertion -/

/-- What all insertions append to a table is what each of them appends. -/
theorem foldl_insert_table {α : Type} (table : Store → List α) (row? : Row → Option α)
    (hinsert : ∀ store row, table (store.insert row) = table store ++ (row? row).toList) :
    ∀ (rows : List Row) (store : Store),
      table (rows.foldl insert store) = table store ++ rows.filterMap row?
  | [], store => (List.append_nil _).symm
  | row :: rest, store => by
    rw [List.foldl_cons, foldl_insert_table table row? hinsert rest, hinsert, List.append_assoc]
    cases hrow : row? row <;> simp [hrow]

section

variable (rows : List Row)

theorem jobs_ofRows : (ofRows rows).jobs = rows.filterMap Row.job? :=
  foldl_insert_table jobs Row.job? (fun _ row => by cases row <;> simp [insert, Row.job?]) rows {}

theorem messages_ofRows : (ofRows rows).messages = rows.filterMap Row.message? :=
  foldl_insert_table messages Row.message?
    (fun _ row => by cases row <;> simp [insert, Row.message?]) rows {}

theorem openedEvents_ofRows : (ofRows rows).openedEvents = rows.filterMap Row.openedEvent? :=
  foldl_insert_table openedEvents Row.openedEvent?
    (fun _ row => by cases row <;> simp [insert, Row.openedEvent?]) rows {}

end

end Store

end DeliveryGate
