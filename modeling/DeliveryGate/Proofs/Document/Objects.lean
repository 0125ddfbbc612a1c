import DeliveryGate.Proofs.Document.Reading
import DeliveryGate.Proofs.Json.Order

/-!
# Objects in documents

How the parts of a value are read back from its document, whatever the order in which the fields of
its objects are written (`Reader.Restores`): an object field by field, a list item by item, an
integer where it fits 64 bits, a free-form value in its sorted form. A shape restores what its
fields restore (`Shape.Restores.given`, `Shape.Restores.found`), and then its reader does too
(`Shape.Restores.reader`).
-/

namespace DeliveryGate

variable {α β : Type} {origin : Origin}

/-- From the document of this value, its fields in any order, a reader makes this. -/
def Reader.Restores (reader : Reader α) (origin : Origin) (value : Json) (a : α) : Prop :=
  ∀ written : Json, written.Reorders value → reader (Doc.ofJsonIn origin written) = .ok a

namespace Reader

/-! ### Scalars and lists -/

theorem text_restores (s : String) : text.Restores origin (.str s) s := by
  intro written h
  rw [h.eq_str]
  rfl

theorem flag_restores (b : Bool) : flag.Restores origin (.bool b) b := by
  intro written h
  rw [h.eq_bool]
  rfl

theorem integer_restores {n : Int}
    (h : (-0x8000000000000000 ≤ n && n < 0x8000000000000000 : Bool) = true) :
    integer.Restores origin (.int n) n := by
  intro written hwritten
  rw [hwritten.eq_int, Doc.ofJsonIn, integer, ofOption]
  simp only [if_pos h]

theorem choice_restores {variants : List (String × α)} {name : String} {a : α}
    (h : variants.lookup name = some a) : (choice variants).Restores origin (.str name) a := by
  intro written hwritten
  rw [hwritten.eq_str, Doc.ofJsonIn, choice, ofOption]
  simp only [h]

/-- A scalar that is neither null nor a double stands for its text. -/
theorem scalarText_restores {value : Json} (h : value.isBare = true) :
    scalarText.Restores origin value value.text := by
  intro written hwritten
  cases value with
  | bool b =>
    rw [hwritten.eq_bool]
    rfl
  | int n =>
    rw [hwritten.eq_int]
    rfl
  | str s =>
    rw [hwritten.eq_str]
    rfl
  | null | double | arr | obj => cases h

theorem list_restores {reader : Reader α} (f : α → Json) {values : List α}
    (h : ∀ a ∈ values, reader.Restores origin (f a) a) :
    (Reader.list reader).Restores origin (.arr (values.map f)) values := by
  have hitems : ∀ {written : List Json}, List.Forall₂ Json.Reorders written (values.map f) →
      Reader.items reader (Doc.ofJsonInItems origin written) = .ok values := by
    induction values with
    | nil =>
      rintro _ ⟨⟩
      rfl
    | cons a rest ih =>
      rintro _ (_ | ⟨hitem, hitems⟩)
      obtain ⟨ha, hrest⟩ := List.forall_mem_cons.mp h
      rw [Doc.ofJsonInItems, Reader.items, ha _ hitem]
      simp only [ih hrest hitems]
      rfl
  intro written hwritten
  obtain ⟨items, rfl, hreorders⟩ := hwritten.eq_arr
  exact hitems hreorders

/-! ### Optional and free-form values -/

theorem Restores.optional {reader : Reader α} {value : Json} {a : α}
    (h : reader.Restores origin value a) (hvalue : value ≠ .null) :
    reader.optional.Restores origin value (some a) := by
  intro written hwritten
  have hread := h written hwritten
  cases written with
  | null =>
    have hsorted := hwritten.sorted
    cases value <;> first | exact absurd rfl hvalue | cases hsorted
  | _ => exact congrArg (Except.map some) hread

/-- A value that is written as null when it is unset is read back, set or not. -/
theorem optional_restores {reader : Reader α} {f : α → Json} {found : Option α}
    (h : ∀ a ∈ found, reader.Restores origin (f a) a ∧ f a ≠ .null) :
    reader.optional.Restores origin (Json.ofOption f found) found := by
  cases found with
  | none =>
    intro written hwritten
    rw [hwritten.eq_null]
    rfl
  | some a => exact (h a rfl).1.optional (h a rfl).2

/-- A canonical value is read back: its fields are sorted while it is read. -/
theorem value_restores (horigin : origin.isFree = true) {value : Json}
    (h : value.canonical = true) : Reader.value.Restores origin value value := by
  intro written hwritten
  have hproper := hwritten.proper (Json.tidy_iff.mp (Json.tidy_of_canonical h)).1
  rw [Reader.value, ofOption, Doc.toJson?_ofJsonIn horigin written hproper, hwritten.sorted,
    Json.sorted_of_canonical h]

end Reader

/-! ### Documents of values -/

namespace Doc

/-- The document of a value is one of JSON if its scalars are. -/
theorem isJson_ofJsonIn {value : Json} (h : value.proper = true) :
    (ofJsonIn origin value).isJson = true := by
  induction value using Json.inductionOn with
  | arr items ih =>
    rw [Json.proper, Json.all, Json.allItems_eq_true_iff] at h
    rw [ofJsonIn, isJson, ofJsonInItems_eq_map, isJsonItems_eq_true_iff, List.forall_mem_map]
    exact fun item hmem => ih item hmem (h item hmem)
  | obj fields ih =>
    rw [Json.proper, Json.all, Bool.true_and, Json.allFields_eq_true_iff] at h
    rw [ofJsonIn, isJson, ofJsonInFields_eq_map, isJsonFields_eq_true_iff, List.forall_mem_map]
    exact fun field hmem => ih field hmem (h field hmem)
  | int n => exact h
  | double x => exact h
  | _ => rfl

theorem itemsHeight_le_iff {items : List Doc} {n : Nat} :
    itemsHeight items ≤ n ↔ ∀ item ∈ items, item.height ≤ n := by
  induction items with
  | nil => simp [itemsHeight]
  | cons item rest ih => simp [itemsHeight, ih]

theorem fieldsHeight_le_iff {fields : List (Doc × Doc)} {n : Nat} :
    fieldsHeight fields ≤ n ↔ ∀ field ∈ fields, field.2.height ≤ n := by
  induction fields with
  | nil => simp [fieldsHeight]
  | cons field rest ih => simp [fieldsHeight, ih]

/-- Sorting a value does not change the height of its document. -/
theorem height_sorted {value : Json} (h : value.distinct = true) :
    (ofJsonIn origin value.sorted).height = (ofJsonIn origin value).height := by
  refine Json.sorted_induction
    (motive := fun value sorted => (ofJsonIn origin sorted).height = (ofJsonIn origin value).height)
    (fun _ _ => rfl) (fun items ih => ?_) (fun fields hperm ih => ?_) h
  · refine congrArg (· + 1) (eq_of_forall_ge_iff fun n => ?_)
    rw [itemsHeight_le_iff, itemsHeight_le_iff, ofJsonInItems_eq_map, ofJsonInItems_eq_map,
      List.map_map, List.forall_mem_map, List.forall_mem_map]
    exact forall₂_congr fun item hmem => by rw [Function.comp_apply, ih item hmem]
  · refine congrArg (· + 1) (eq_of_forall_ge_iff fun n => ?_)
    rw [fieldsHeight_le_iff, fieldsHeight_le_iff, ofJsonInFields_eq_map, ofJsonInFields_eq_map,
      List.forall_mem_map, List.forall_mem_map]
    simp only [hperm.mem_iff, List.forall_mem_map]
    exact forall₂_congr fun field hmem => by rw [Json.sortedField, ih field hmem]

theorem height_reorders {value other : Json} (h : value.Reorders other) :
    (ofJsonIn origin value).height = (ofJsonIn origin other).height := by
  rw [← height_sorted h.left, h.sorted, height_sorted h.right]

end Doc

/-! ### Objects -/

namespace Entries

/-- The entries of an object. -/
def ofFields (origin : Origin) (fields : List (String × Json)) : Entries :=
  ⟨fields.map fun field => (field.1, Doc.ofJsonIn origin field.2), false, false⟩

theorem named?_ofJsonInFields {names : List String} : ∀ {fields : List (String × Json)},
    (∀ field ∈ fields, field.1 ∈ names) →
      named? names (Doc.ofJsonInFields origin fields) = some (ofFields origin fields).fields
  | [], _ => rfl
  | (key, value) :: rest, h => by
    obtain ⟨hkey, hrest⟩ := List.forall_mem_cons.mp h
    rw [Doc.ofJsonInFields, named?, nameOfKey?, if_pos (List.contains_iff_mem.mpr hkey),
      named?_ofJsonInFields hrest]
    rfl

theorem map_snd_occurrences (name : String) : ∀ (fields : List (String × Doc)) (start : Nat),
    (occurrences name start fields).map Prod.snd
      = (fields.filter fun field => field.1 == name).map Prod.snd
  | [], _ => rfl
  | (key, d) :: rest, start => by
    rw [occurrences]
    split
    · rename_i hkey
      rw [List.map_cons, map_snd_occurrences, List.filter, hkey]
      rfl
    · rename_i hkey
      rw [map_snd_occurrences, List.filter, Bool.eq_false_iff.mpr hkey]

section

variable {written : List (String × Json)} {name : String} {reader : Reader α} {missing : Option α}

theorem map_snd_occurrences_ofFields (origin : Origin) (written : List (String × Json))
    (name : String) : (occurrences name 0 (ofFields origin written).fields).map Prod.snd
      = (written.filter fun field => field.1 == name).map fun field =>
          Doc.ofJsonIn origin field.2 := by
  rw [map_snd_occurrences, ofFields, List.filter_map, List.map_map]
  rfl

/-- A field that stands there once is read as its value is read. -/
theorem read_of_filter_eq_singleton {value : Json} {a : α}
    (h : written.filter (fun field => field.1 == name) = [(name, value)])
    (hread : reader (Doc.ofJsonIn origin value) = .ok a) :
    (ofFields origin written).read name reader missing = .ok a := by
  have hplaces := map_snd_occurrences_ofFields origin written name
  rw [h] at hplaces
  obtain ⟨⟨place, d⟩, rest, hoccurrences, hd, hrest⟩ := List.map_eq_cons_iff.mp hplaces
  obtain rfl : d = Doc.ofJsonIn origin value := hd
  rw [List.map_eq_nil_iff.mp hrest] at hoccurrences
  rw [read.eq_def, hoccurrences]
  simp only [hread]
  rfl

theorem read_of_filter_eq_nil {a : α} (h : written.filter (fun field => field.1 == name) = [])
    (hmissing : missing = some a) : (ofFields origin written).read name reader missing = .ok a := by
  have hplaces := map_snd_occurrences_ofFields origin written name
  rw [h] at hplaces
  rw [read.eq_def, List.map_eq_nil_iff.mp hplaces, hmissing]

end

end Entries

/-- From an object with these fields, in any order, a shape makes this. -/
def Shape.Restores (shape : Shape α) (origin : Origin) (fields : List (String × Json)) (a : α) :
    Prop :=
  ∀ written, (Json.obj written).Reorders (.obj fields) →
    shape.read (Entries.ofFields origin written) = .ok a

namespace Shape.Restores

variable {fields : List (String × Json)} {name : String} {value : Json}

theorem make {a : α} : (Shape.make a).Restores origin fields a := fun _ _ => rfl

theorem map {shape : Shape α} {a : α} (h : shape.Restores origin fields a) (f : α → β) :
    (shape.map f).Restores origin fields (f a) := by
  intro written hwritten
  simp only [Shape.map, h written hwritten]
  rfl

/-- A field that is written. -/
theorem given {shape : Shape (α → β)} {f : α → β} {reader : Reader α}
    {missing : Entries → Option α} {a : α} (h : shape.Restores origin fields f)
    (hfield : fields.lookup name = some value) (hread : reader.Restores origin value a) :
    (shape.field name reader missing).Restores origin fields (f a) := by
  intro written hwritten
  obtain ⟨before, behind, rfl, -⟩ := List.lookup_eq_some_iff.mp hfield
  obtain ⟨found, hfound, hreorders⟩ := hwritten.field (List.mem_append_cons_self)
  exact Attempt.apply_eq_ok_iff.mpr ⟨f, a, h written hwritten,
    Entries.read_of_filter_eq_singleton hfound (hread found hreorders), rfl⟩

/-- A field that is left out. -/
theorem unset {shape : Shape (α → β)} {f : α → β} {reader : Reader α}
    {missing : Entries → Option α} {a : α} (h : shape.Restores origin fields f)
    (hfield : fields.lookup name = none)
    (hmissing : ∀ entries, entries.positional = false → missing entries = some a) :
    (shape.field name reader missing).Restores origin fields (f a) := by
  intro written hwritten
  have hname : name ∉ fields.map Prod.fst := by
    rintro hmem
    obtain ⟨field, hfield', rfl⟩ := List.mem_map.mp hmem
    simpa using List.lookup_eq_none_iff.mp hfield field hfield'
  exact Attempt.apply_eq_ok_iff.mpr ⟨f, a, h written hwritten,
    Entries.read_of_filter_eq_nil (hwritten.no_field hname) (hmissing _ rfl), rfl⟩

/-- A field that is left out when it is unset. -/
theorem found {shape : Shape (Option α → β)} {f : Option α → β} {reader : Reader α}
    {missing : Entries → Option (Option α)} {write : α → Json} {found : Option α}
    (h : shape.Restores origin fields f) (hfield : fields.lookup name = found.map write)
    (hread : ∀ a ∈ found, reader.Restores origin (write a) a ∧ write a ≠ .null)
    (hmissing : ∀ entries, entries.positional = false → missing entries = some none) :
    (shape.field name reader.optional missing).Restores origin fields (f found) := by
  cases found with
  | none => exact h.unset hfield hmissing
  | some a => exact h.given hfield ((hread a rfl).1.optional (hread a rfl).2)

/-- An object with known fields is read as what the shape makes of these fields. -/
theorem reader {shape : Shape α} {a : α} (h : shape.Restores origin fields a)
    (hnames : (fields.map Prod.fst).all shape.names.contains = true) :
    shape.reader.Restores origin (.obj fields) a := by
  intro written hwritten
  obtain ⟨written, rfl⟩ := hwritten.eq_obj
  have hknown : ∀ field ∈ written, field.1 ∈ shape.names := by
    intro field hmem
    exact List.contains_iff_mem.mp
      (List.all_eq_true.mp hnames _ (hwritten.keys.mem_iff.mp (List.mem_map_of_mem hmem)))
  rw [Doc.ofJsonIn, Shape.reader, Entries.ofDoc?, Entries.named?_ofJsonInFields hknown]
  simp only [Option.map_some]
  rw [show shape.read ⟨(Entries.ofFields origin written).fields, false, false⟩ = .ok a from
    h written hwritten]
  rfl

end Shape.Restores

end DeliveryGate
