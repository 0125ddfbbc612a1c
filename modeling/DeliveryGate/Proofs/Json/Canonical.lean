import DeliveryGate.Json.Value
import Mathlib.Data.String.Basic

/-!
# Canonical values

A JSON value is canonical if its integers fit 64 bits, its doubles are finite, and its objects list
their fields by key, each key once. Whatever is read from a document as a free-form value is so, and
is its own sorted form (`sortFields_of_sorted`). A value that somebody writes is tidy if the same
holds of it but for the order of fields. `Json.all` is the walk over a value by which this and other
properties of all of its parts are told, and `Json.nesting` how deep its brackets go.
-/

namespace DeliveryGate

namespace Json

mutual

/-- Whether all scalars of a value pass a test, and the keys of all of its objects another. -/
def all (scalar : Json → Bool) (keys : List String → Bool) : Json → Bool
  | .arr items => allItems scalar keys items
  | .obj fields => keys (fields.map Prod.fst) && allFields scalar keys fields
  | value => scalar value

def allItems (scalar : Json → Bool) (keys : List String → Bool) : List Json → Bool
  | [] => true
  | item :: rest => all scalar keys item && allItems scalar keys rest

def allFields (scalar : Json → Bool) (keys : List String → Bool) : List (String × Json) → Bool
  | [] => true
  | (_, value) :: rest => all scalar keys value && allFields scalar keys rest

end

mutual

/-- The greatest number of brackets that are open at one place of a value's text. -/
def nesting : Json → Nat
  | .arr items => nestingItems items + 1
  | .obj fields => nestingFields fields + 1
  | _ => 0

def nestingItems : List Json → Nat
  | [] => 0
  | item :: rest => max (nesting item) (nestingItems rest)

def nestingFields : List (String × Json) → Nat
  | [] => 0
  | (_, value) :: rest => max (nesting value) (nestingFields rest)

end

/-- Whether a scalar is one that a JSON text may denote. -/
def isProper : Json → Bool
  | .int n => isWord n
  | .double x => x.isFinite
  | _ => true

/-- Whether a scalar is a number with a fraction, an exponent or more than 64 bits. -/
def isDouble : Json → Bool
  | .double _ => true
  | _ => false

/-- Whether a value may stand for its text without quotes: a string, a boolean, or an integer of 64
bits. -/
def isBare : Json → Bool
  | .bool _ | .str _ => true
  | .int n => isWord n
  | _ => false

/-- Whether keys are in order, each once. -/
def increasing (keys : List String) : Bool := decide (keys.Pairwise (· < ·))

/-- Whether a value is one that a free-form part of a document may be read as. -/
def canonical (value : Json) : Bool := value.all isProper increasing

/-- Whether no number in a value is a double. -/
def doubleFree (value : Json) : Bool := value.all (fun scalar => !scalar.isDouble) fun _ => true

/-- Whether the scalars of a value are such that a JSON text may denote them. -/
def proper (value : Json) : Bool := value.all isProper fun _ => true

/-- Whether no object in a value has a key twice. -/
def distinct (value : Json) : Bool := value.all (fun _ => true) fun keys => decide keys.Nodup

/-- Whether a value is proper and distinct. -/
def tidy (value : Json) : Bool := value.all isProper fun keys => decide keys.Nodup

/-! ### All parts -/

section

variable {p q : Json → Bool} {k l : List String → Bool}

mutual

theorem all_and : ∀ value : Json,
    value.all (fun s => p s && q s) (fun ks => k ks && l ks) = (value.all p k && value.all q l)
  | .arr items => allItems_and items
  | .obj fields => by
    rw [all, all, all, allFields_and fields]
    ac_rfl
  | .null | .bool _ | .int _ | .double _ | .str _ => rfl

theorem allItems_and : ∀ items : List Json,
    allItems (fun s => p s && q s) (fun ks => k ks && l ks) items
      = (allItems p k items && allItems q l items)
  | [] => rfl
  | item :: rest => by
    rw [allItems, allItems, allItems, all_and item, allItems_and rest]
    ac_rfl

theorem allFields_and : ∀ fields : List (String × Json),
    allFields (fun s => p s && q s) (fun ks => k ks && l ks) fields
      = (allFields p k fields && allFields q l fields)
  | [] => rfl
  | (_, value) :: rest => by
    rw [allFields, allFields, allFields, all_and value, allFields_and rest]
    ac_rfl

end

theorem allFields_eq_true_iff {fields : List (String × Json)} :
    allFields p k fields = true ↔ ∀ field ∈ fields, field.2.all p k = true := by
  induction fields with
  | nil => simp [allFields]
  | cons field rest ih => simp [allFields, ih]

theorem allItems_eq_true_iff {items : List Json} :
    allItems p k items = true ↔ ∀ item ∈ items, item.all p k = true := by
  induction items with
  | nil => simp [allItems]
  | cons item rest ih => simp [allItems, ih]

end

/-- The scalars that stand for their texts are such as may be read back. -/
theorem readable_of_isBare {value : Json} (h : value.isBare = true) :
    value.canonical = true ∧ value.doubleFree = true ∧ value.nesting = 0 := by
  cases value with
  | bool b => exact ⟨rfl, rfl, rfl⟩
  | int n => exact ⟨h, rfl, rfl⟩
  | str s => exact ⟨rfl, rfl, rfl⟩
  | null | double | arr | obj => cases h

theorem tidy_iff {value : Json} :
    value.tidy = true ↔ value.proper = true ∧ value.distinct = true := by
  have hall := all_and (p := isProper) (q := fun _ => true) (k := fun _ => true)
    (l := fun keys => decide keys.Nodup) value
  simp only [Bool.true_and, Bool.and_true] at hall
  rw [tidy, hall, Bool.and_eq_true]
  rfl

theorem tidy_obj {fields : List (String × Json)} : (obj fields).tidy = true ↔
    (fields.map Prod.fst).Nodup ∧ ∀ field ∈ fields, field.2.tidy = true := by
  rw [tidy, all, Bool.and_eq_true, decide_eq_true_iff, allFields_eq_true_iff]
  rfl

theorem tidy_arr {items : List Json} :
    (arr items).tidy = true ↔ ∀ item ∈ items, item.tidy = true := by
  rw [tidy, all, allItems_eq_true_iff]
  rfl

@[simp] theorem tidy_str (s : String) : (str s).tidy = true := rfl

@[simp] theorem tidy_bool (b : Bool) : (bool b).tidy = true := rfl

/-- A value that is written as null when it is unset is tidy if it is so when it is set. -/
theorem tidy_ofOption {α : Type} {f : α → Json} {found : Option α}
    (h : ∀ a ∈ found, (f a).tidy = true) : (ofOption f found).tidy = true := by
  cases found with
  | none => rfl
  | some a => exact h a rfl

/-- A list is tidy if its items are. -/
theorem tidy_map {α : Type} {f : α → Json} {values : List α} (h : ∀ a ∈ values, (f a).tidy = true) :
    (arr (values.map f)).tidy = true :=
  tidy_arr.mpr (List.forall_mem_map.mpr h)

theorem distinct_obj {fields : List (String × Json)} : (obj fields).distinct = true ↔
    (fields.map Prod.fst).Nodup ∧ ∀ field ∈ fields, field.2.distinct = true := by
  rw [distinct, all, Bool.and_eq_true, decide_eq_true_iff, allFields_eq_true_iff]
  rfl

theorem distinct_arr {items : List Json} :
    (arr items).distinct = true ↔ ∀ item ∈ items, item.distinct = true := by
  rw [distinct, all, allItems_eq_true_iff]
  rfl

/-! ### Fields in order -/

section

variable {key : String} {value : Json} {fields : List (String × Json)}

theorem mem_insertField {field : String × Json} (h : field ∈ insertField key value fields) :
    field = (key, value) ∨ field ∈ fields := by
  induction fields with
  | nil => exact Or.inl (List.mem_singleton.mp h)
  | cons other rest ih =>
    rw [insertField] at h
    split at h
    · exact (List.mem_cons.mp h)
    · split at h
      · rcases List.mem_cons.mp h with h | h
        · exact Or.inl h
        · exact Or.inr (List.mem_cons_of_mem _ h)
      · rcases List.mem_cons.mp h with h | h
        · exact Or.inr (h ▸ List.mem_cons_self ..)
        · exact (ih h).imp_right (List.mem_cons_of_mem _)

/-- To insert a field keeps the keys in order. -/
theorem sorted_insertField (h : (fields.map Prod.fst).Pairwise (· < ·)) :
    ((insertField key value fields).map Prod.fst).Pairwise (· < ·) := by
  induction fields with
  | nil => exact List.pairwise_singleton ..
  | cons other rest ih =>
    obtain ⟨k, v⟩ := other
    rw [List.map_cons, List.pairwise_cons] at h
    rw [insertField]
    split
    · rename_i hlt
      refine List.pairwise_cons.mpr ⟨fun x hx => ?_, List.pairwise_cons.mpr h⟩
      rcases List.mem_cons.mp hx with rfl | hx
      · exact hlt
      · exact lt_trans hlt (h.1 x hx)
    · rename_i hnlt
      split
      · rename_i heq
        obtain rfl := eq_of_beq heq
        exact List.pairwise_cons.mpr h
      · rename_i hne
        have hgt : k < key := by
          rcases lt_trichotomy key k with hlt | rfl | hgt
          · exact absurd hlt hnlt
          · exact absurd (beq_self_eq_true key) hne
          · exact hgt
        refine List.pairwise_cons.mpr ⟨fun x hx => ?_, ih h.2⟩
        obtain ⟨field, hfield, rfl⟩ := List.mem_map.mp hx
        rcases mem_insertField hfield with rfl | hmem
        · exact hgt
        · exact h.1 _ (List.mem_map_of_mem hmem)

/-- A field whose key comes after all others goes to the end. -/
theorem insertField_of_last (h : ∀ other ∈ fields, other.1 < key) :
    insertField key value fields = fields ++ [(key, value)] := by
  induction fields with
  | nil => rfl
  | cons other rest ih =>
    have hother : other.1 < key := h other (List.mem_cons_self ..)
    rw [insertField, if_neg (not_lt.mpr hother.le), if_neg (by simpa using hother.ne'),
      ih fun field hmem => h field (List.mem_cons_of_mem _ hmem)]
    rfl

theorem sorted_sortFields (fields : List (String × Json)) :
    ((sortFields fields).map Prod.fst).Pairwise (· < ·) :=
  List.foldlRecOn
    (motive := fun sorted : List (String × Json) => (sorted.map Prod.fst).Pairwise (· < ·))
    fields _ List.Pairwise.nil fun _ hsorted _ _ => sorted_insertField hsorted

theorem mem_sortFields {field : String × Json} (h : field ∈ sortFields fields) :
    field ∈ fields :=
  List.foldlRecOn (motive := fun sorted : List (String × Json) => ∀ field ∈ sorted, field ∈ fields)
    fields _
    (List.forall_mem_nil _)
    (fun _ ih _ hother _ hmem => (mem_insertField hmem).elim (· ▸ hother) (ih _)) field h

/-- Fields that are in order are left as they are. -/
theorem sortFields_of_sorted (h : (fields.map Prod.fst).Pairwise (· < ·)) :
    sortFields fields = fields := by
  -- the fields that are sorted already come before all others
  have hrest : ∀ {rest sorted : List (String × Json)},
      ((sorted ++ rest).map Prod.fst).Pairwise (· < ·) →
      rest.foldl (fun sorted field => insertField field.1 field.2 sorted) sorted
        = sorted ++ rest := by
    intro rest
    induction rest with
    | nil => exact fun _ => (List.append_nil _).symm
    | cons field rest ih =>
      intro sorted h
      have hlast : ∀ other ∈ sorted, other.1 < field.1 := by
        rw [List.map_append, List.pairwise_append] at h
        exact fun other hmem => h.2.2 _ (List.mem_map_of_mem hmem) _ (List.mem_cons_self ..)
      rw [List.append_cons] at h
      rw [List.foldl_cons, insertField_of_last hlast, ih h, List.append_assoc]
      rfl
  exact hrest (by simpa using h)

/-- An object of canonical values is canonical once its fields are sorted. -/
theorem canonical_ofFields (h : allFields isProper increasing fields = true) :
    (ofFields fields).canonical = true := by
  rw [ofFields, canonical, all, Bool.and_eq_true]
  refine ⟨decide_eq_true (sorted_sortFields fields), allFields_eq_true_iff.mpr fun field hmem => ?_⟩
  exact allFields_eq_true_iff.mp h field (mem_sortFields hmem)

end

end Json

end DeliveryGate
