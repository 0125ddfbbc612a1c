import DeliveryGate.Proofs.Json.Canonical
import Mathlib.Data.List.Forall2

/-!
# Values up to the order of fields

A value reorders another one if nothing differs but the order of the fields in their objects, and no
object has a key twice (`Json.Reorders`). Whoever writes an object may choose the order of its
fields, so what is read back from a value should be read back from every value that reorders it.
What matters of such an object are its fields by name (`Reorders.field`). The sorted form stands for
all orders, so what sorting leaves as it is (`sorted_induction`) is the same for both values: their
scalars (`Reorders.all_eq`) and how deep their brackets go (`Reorders.nesting_eq`).
-/

namespace DeliveryGate

namespace Json

/-- Induction on values: an array or object may use what holds of each of its parts. -/
@[elab_as_elim]
theorem inductionOn {motive : Json → Prop} (null : motive .null) (bool : ∀ b, motive (.bool b))
    (int : ∀ n, motive (.int n)) (double : ∀ x, motive (.double x)) (str : ∀ s, motive (.str s))
    (arr : ∀ items, (∀ item ∈ items, motive item) → motive (.arr items))
    (obj : ∀ fields : List (String × Json), (∀ field ∈ fields, motive field.2) →
      motive (.obj fields)) : ∀ value, motive value
  | .null => null
  | .bool b => bool b
  | .int n => int n
  | .double x => double x
  | .str s => str s
  | .arr items => arr items fun item _ => inductionOn null bool int double str arr obj item
  | .obj fields => obj fields fun field hmem => by
    have := List.sizeOf_lt_of_mem hmem
    exact inductionOn null bool int double str arr obj field.2
termination_by value => sizeOf value
decreasing_by
  all_goals simp_wf
  · rename_i hmem
    have := List.sizeOf_lt_of_mem hmem
    omega
  · cases field
    simp only [Prod.mk.sizeOf_spec] at this ⊢
    omega

/-- The same value with the fields of its objects in another order. -/
structure Reorders (value other : Json) : Prop where
  left : value.distinct = true
  right : other.distinct = true
  sorted : value.sorted = other.sorted

/-! ### Sorting -/

/-- A field with its value sorted. -/
def sortedField (field : String × Json) : String × Json := (field.1, field.2.sorted)

theorem sortedItems_eq_map (items : List Json) : sortedItems items = items.map sorted := by
  induction items with
  | nil => rfl
  | cons item rest ih => rw [sortedItems, ih, List.map_cons]

theorem sortedFields_eq_map (fields : List (String × Json)) :
    sortedFields fields = fields.map sortedField := by
  induction fields with
  | nil => rfl
  | cons field rest ih => rw [sortedFields, ih, List.map_cons, sortedField]

section

variable {fields others : List (String × Json)}

theorem insertField_perm {key : String} (h : ∀ field ∈ fields, field.1 ≠ key) (value : Json) :
    (insertField key value fields).Perm ((key, value) :: fields) := by
  induction fields with
  | nil => exact .refl _
  | cons field rest ih =>
    obtain ⟨hfield, hrest⟩ := List.forall_mem_cons.mp h
    rw [insertField]
    split
    · exact .refl _
    · rw [if_neg (by simpa using hfield.symm)]
      exact ((ih hrest).cons field).trans (.swap ..)

/-- Where no key comes twice, a field is the only one of its name. -/
theorem filter_key_eq_singleton {name : String} {value : Json}
    (h : (fields.map Prod.fst).Nodup) (hmem : (name, value) ∈ fields) :
    fields.filter (fun field => field.1 == name) = [(name, value)] := by
  induction fields with
  | nil => cases hmem
  | cons field rest ih =>
    obtain ⟨hfirst, hrest⟩ := List.nodup_cons.mp h
    rcases List.mem_cons.mp hmem with rfl | hmem
    · have hnone : rest.filter (fun field => field.1 == name) = [] :=
        List.filter_eq_nil_iff.mpr fun other hother heq =>
          hfirst (List.mem_map.mpr ⟨other, hother, eq_of_beq heq⟩)
      simp [hnone]
    · have hne : field.1 ≠ name := fun heq =>
        hfirst (List.mem_map.mpr ⟨(name, value), hmem, heq.symm⟩)
      simp [hne, ih hrest hmem]

/-- Where no key comes twice, sorting loses no field. -/
theorem sortFields_perm (h : (fields.map Prod.fst).Nodup) : (sortFields fields).Perm fields := by
  -- the fields that are sorted already have other keys than the rest
  have hrest : ∀ {rest sorted : List (String × Json)}, ((sorted ++ rest).map Prod.fst).Nodup →
      (rest.foldl (fun sorted field => insertField field.1 field.2 sorted) sorted).Perm
        (sorted ++ rest) := by
    intro rest
    induction rest with
    | nil =>
      intro sorted _
      rw [List.append_nil]
      exact .refl _
    | cons field rest ih =>
      intro sorted hkeys
      have hmiddle : (sorted ++ field :: rest).Perm (field :: sorted ++ rest) := List.perm_middle
      have hnew : ∀ other ∈ sorted, other.1 ≠ field.1 := by
        intro other hmem heq
        have hfirst := (List.nodup_cons.mp ((hmiddle.map Prod.fst).nodup_iff.mp hkeys)).1
        exact hfirst (heq ▸ List.mem_map_of_mem (List.mem_append_left _ hmem))
      have hinsert := (insertField_perm hnew field.2).append_right rest
      exact (ih (((hinsert.trans hmiddle.symm).map Prod.fst).nodup_iff.mpr hkeys)).trans
        (hinsert.trans hmiddle.symm)
  exact hrest h

/-- Where no key comes twice, fields are sorted to the same if they are the same in some order. -/
theorem sortFields_eq_iff (h : (fields.map Prod.fst).Nodup) (h' : (others.map Prod.fst).Nodup) :
    sortFields fields = sortFields others ↔ fields.Perm others := by
  constructor
  · intro heq
    exact (sortFields_perm h).symm.trans (heq ▸ sortFields_perm h')
  · intro hperm
    have hsorted (fields : List (String × Json)) :
        (sortFields fields).Pairwise fun field other => field.1 < other.1 :=
      List.pairwise_map.mp (sorted_sortFields fields)
    exact List.Perm.eq_of_pairwise (fun _ _ _ _ hlt hgt => absurd hgt (lt_asymm hlt))
      (hsorted fields) (hsorted others)
      ((sortFields_perm h).trans (hperm.trans (sortFields_perm h').symm))

theorem map_fst_sortedField : (fields.map sortedField).map Prod.fst = fields.map Prod.fst := by
  rw [List.map_map]
  rfl

/-- An object reorders another one if their fields are the same in some order, with values that
reorder each other. -/
theorem reorders_obj_iff : (obj fields).Reorders (obj others) ↔
    ((obj fields).distinct = true ∧ (obj others).distinct = true) ∧
      (fields.map sortedField).Perm (others.map sortedField) := by
  have hsorted (h : (obj fields).distinct = true) (h' : (obj others).distinct = true) :
      (obj fields).sorted = (obj others).sorted ↔
        (fields.map sortedField).Perm (others.map sortedField) := by
    have hkeys := (distinct_obj.mp h).1
    have hkeys' := (distinct_obj.mp h').1
    rw [← map_fst_sortedField] at hkeys hkeys'
    rw [← sortFields_eq_iff hkeys hkeys', Json.sorted, Json.sorted, ofFields, ofFields,
      sortedFields_eq_map, sortedFields_eq_map, obj.injEq]
  constructor
  · rintro ⟨h, h', heq⟩
    exact ⟨⟨h, h'⟩, (hsorted h h').mp heq⟩
  · rintro ⟨⟨h, h'⟩, hperm⟩
    exact ⟨h, h', (hsorted h h').mpr hperm⟩

end

/-! ### What sorting leaves as it is -/

/-- Induction along sorting: the items of an array are sorted each, and so are the values of an
object, whose fields are then put in order. -/
theorem sorted_induction {motive : Json → Json → Prop}
    (scalar : ∀ value : Json, value.sorted = value → motive value value)
    (arr : ∀ items : List Json, (∀ item ∈ items, motive item item.sorted) →
      motive (.arr items) (.arr (items.map sorted)))
    (obj : ∀ fields : List (String × Json),
      (sortFields (fields.map sortedField)).Perm (fields.map sortedField) →
      (∀ field ∈ fields, motive field.2 field.2.sorted) →
      motive (.obj fields) (.obj (sortFields (fields.map sortedField))))
    {value : Json} (h : value.distinct = true) : motive value value.sorted := by
  induction value using inductionOn with
  | arr items ih =>
    have hitems := distinct_arr.mp h
    rw [Json.sorted, sortedItems_eq_map]
    exact arr items fun item hmem => ih item hmem (hitems item hmem)
  | obj fields ih =>
    obtain ⟨hkeys, hfields⟩ := distinct_obj.mp h
    rw [← map_fst_sortedField] at hkeys
    rw [Json.sorted, sortedFields_eq_map, ofFields]
    exact obj fields (sortFields_perm hkeys) fun field hmem => ih field hmem (hfields field hmem)
  | _ => exact scalar _ rfl

/-- Sorting changes neither the scalars of a value nor the keys of its objects. -/
theorem all_sorted {p : Json → Bool} {k : List String → Bool}
    (hk : ∀ keys keys' : List String, keys.Perm keys' → k keys = k keys') {value : Json}
    (h : value.distinct = true) : value.sorted.all p k = value.all p k := by
  refine sorted_induction (motive := fun value sorted => sorted.all p k = value.all p k)
    (fun _ _ => rfl) (fun items ih => ?_) (fun fields hperm ih => ?_) h
  · rw [Bool.eq_iff_iff, all, all, allItems_eq_true_iff, allItems_eq_true_iff, List.forall_mem_map]
    exact forall₂_congr fun item hmem => by rw [ih item hmem]
  · have hnames := hperm.map Prod.fst
    rw [map_fst_sortedField] at hnames
    rw [all, all, hk _ _ hnames]
    congr 1
    rw [Bool.eq_iff_iff, allFields_eq_true_iff, allFields_eq_true_iff]
    simp only [hperm.mem_iff, List.forall_mem_map]
    exact forall₂_congr fun field hmem => by rw [sortedField, ih field hmem]

theorem distinct_sorted {value : Json} (h : value.distinct = true) :
    value.sorted.distinct = true := by
  rw [distinct, all_sorted (fun keys keys' hperm => decide_eq_decide.mpr hperm.nodup_iff) h]
  exact h

theorem sorted_sorted {value : Json} (h : value.distinct = true) :
    value.sorted.sorted = value.sorted := by
  refine sorted_induction (motive := fun _ sorted => sorted.sorted = sorted)
    (fun _ hsorted => hsorted) (fun items ih => ?_) (fun fields _ ih => ?_) h
  · rw [Json.sorted, sortedItems_eq_map, List.map_map]
    exact congrArg arr (List.map_congr_left ih)
  · have hagain : (sortFields (fields.map sortedField)).map sortedField
        = sortFields (fields.map sortedField) := by
      refine (List.map_congr_left fun field hmem => ?_).trans (List.map_id _)
      obtain ⟨other, hother, rfl⟩ := List.mem_map.mp (mem_sortFields hmem)
      rw [sortedField, sortedField, ih other hother, id]
    rw [Json.sorted, sortedFields_eq_map, hagain, ofFields,
      sortFields_of_sorted (sorted_sortFields _)]

theorem nestingItems_le_iff {items : List Json} {n : Nat} :
    nestingItems items ≤ n ↔ ∀ item ∈ items, item.nesting ≤ n := by
  induction items with
  | nil => simp [nestingItems]
  | cons item rest ih => simp [nestingItems, ih]

theorem nestingFields_le_iff {fields : List (String × Json)} {n : Nat} :
    nestingFields fields ≤ n ↔ ∀ field ∈ fields, field.2.nesting ≤ n := by
  induction fields with
  | nil => simp [nestingFields]
  | cons field rest ih => simp [nestingFields, ih]

theorem nesting_sorted {value : Json} (h : value.distinct = true) :
    value.sorted.nesting = value.nesting := by
  refine sorted_induction (motive := fun value sorted => sorted.nesting = value.nesting)
    (fun _ _ => rfl) (fun items ih => ?_) (fun fields hperm ih => ?_) h
  · refine congrArg (· + 1) (eq_of_forall_ge_iff fun n => ?_)
    rw [nestingItems_le_iff, nestingItems_le_iff, List.forall_mem_map]
    exact forall₂_congr fun item hmem => by rw [ih item hmem]
  · refine congrArg (· + 1) (eq_of_forall_ge_iff fun n => ?_)
    rw [nestingFields_le_iff, nestingFields_le_iff]
    simp only [hperm.mem_iff, List.forall_mem_map]
    exact forall₂_congr fun field hmem => by rw [sortedField, ih field hmem]

/-- A canonical value is tidy: its keys are in order besides. -/
theorem tidy_of_canonical {value : Json} (h : value.canonical = true) : value.tidy = true := by
  induction value using inductionOn with
  | arr items ih =>
    rw [canonical, all, allItems_eq_true_iff] at h
    exact tidy_arr.mpr fun item hmem => ih item hmem (h item hmem)
  | obj fields ih =>
    rw [canonical, all, Bool.and_eq_true, allFields_eq_true_iff] at h
    refine tidy_obj.mpr ⟨?_, fun field hmem => ih field hmem (h.2 field hmem)⟩
    exact (of_decide_eq_true h.1).imp fun hlt => hlt.ne
  | _ => exact h

/-- A canonical value is sorted. -/
theorem sorted_of_canonical {value : Json} (h : value.canonical = true) :
    value.sorted = value := by
  induction value using inductionOn with
  | arr items ih =>
    rw [canonical, all, allItems_eq_true_iff] at h
    rw [Json.sorted, sortedItems_eq_map]
    exact congrArg arr ((List.map_congr_left fun item hmem => ih item hmem (h item hmem)).trans
      (List.map_id _))
  | obj fields ih =>
    rw [canonical, all, Bool.and_eq_true, allFields_eq_true_iff] at h
    have hfields : fields.map sortedField = fields := by
      refine (List.map_congr_left fun field hmem => ?_).trans (List.map_id _)
      rw [sortedField, ih field hmem (h.2 field hmem), id]
    rw [Json.sorted, sortedFields_eq_map, hfields, ofFields,
      sortFields_of_sorted (of_decide_eq_true h.1)]
  | _ => rfl

namespace Reorders

variable {value other : Json}

theorem refl (h : value.distinct = true) : value.Reorders value := ⟨h, h, rfl⟩

theorem sorted_refl (h : value.distinct = true) : value.sorted.Reorders value :=
  ⟨distinct_sorted h, h, sorted_sorted h⟩

/-- The scalars are the same, and so are the keys of each object but for their order. -/
theorem all_eq (h : value.Reorders other) {p : Json → Bool} {k : List String → Bool}
    (hk : ∀ keys keys' : List String, keys.Perm keys' → k keys = k keys') :
    value.all p k = other.all p k := by
  rw [← all_sorted hk h.left, h.sorted, all_sorted hk h.right]

theorem proper (h : value.Reorders other) (hother : other.proper = true) : value.proper = true :=
  (h.all_eq fun _ _ _ => rfl).trans hother

theorem doubleFree (h : value.Reorders other) (hother : other.doubleFree = true) :
    value.doubleFree = true :=
  (h.all_eq fun _ _ _ => rfl).trans hother

theorem nesting_eq (h : value.Reorders other) : value.nesting = other.nesting := by
  rw [← nesting_sorted h.left, h.sorted, nesting_sorted h.right]

/-! ### Scalars and arrays -/

theorem eq_null (h : value.Reorders .null) : value = .null := by
  have hsorted := h.sorted
  cases value <;> first | rfl | cases hsorted

theorem eq_bool {b : Bool} (h : value.Reorders (.bool b)) : value = .bool b := by
  have hsorted := h.sorted
  cases value <;> cases hsorted
  rfl

theorem eq_int {n : Int} (h : value.Reorders (.int n)) : value = .int n := by
  have hsorted := h.sorted
  cases value <;> cases hsorted
  rfl

theorem eq_str {s : String} (h : value.Reorders (.str s)) : value = .str s := by
  have hsorted := h.sorted
  cases value <;> cases hsorted
  rfl

theorem eq_arr {others : List Json} (h : value.Reorders (.arr others)) :
    ∃ items, value = .arr items ∧ List.Forall₂ Reorders items others := by
  have hsorted := h.sorted
  cases value with
  | arr items =>
    have hdistinct := distinct_arr.mp h.left
    have hdistinct' := distinct_arr.mp h.right
    rw [Json.sorted, Json.sorted, sortedItems_eq_map, sortedItems_eq_map] at hsorted
    have hlength : items.length = others.length := by
      simpa using congrArg List.length (arr.inj hsorted)
    refine ⟨items, rfl, List.forall₂_iff_get.mpr ⟨hlength, fun i hi hi' => ?_⟩⟩
    refine ⟨hdistinct _ (List.get_mem ..), hdistinct' _ (List.get_mem ..), ?_⟩
    have hget := congrArg (·[i]?) (arr.inj hsorted)
    simpa [hi, hi'] using hget
  | _ => cases hsorted

/-! ### Objects -/

theorem eq_obj {others : List (String × Json)} (h : value.Reorders (.obj others)) :
    ∃ fields, value = .obj fields := by
  have hsorted := h.sorted
  cases value with
  | obj fields => exact ⟨fields, rfl⟩
  | _ => cases hsorted

section

variable {fields others : List (String × Json)} (h : (obj fields).Reorders (obj others))

include h

theorem keys : (fields.map Prod.fst).Perm (others.map Prod.fst) := by
  have hperm := (reorders_obj_iff.mp h).2.map Prod.fst
  rwa [map_fst_sortedField, map_fst_sortedField] at hperm

/-- A field of the one object is the only one of its name in the other, up to the order of the
fields in its value. -/
theorem field {name : String} (hfield : (name, other) ∈ others) : ∃ value,
    fields.filter (fun field => field.1 == name) = [(name, value)] ∧ value.Reorders other := by
  have hmem := (reorders_obj_iff.mp h).2.mem_iff.mpr (List.mem_map_of_mem hfield)
  obtain ⟨⟨key, value⟩, hvalue, heq⟩ := List.mem_map.mp hmem
  obtain ⟨rfl, hsorted⟩ := Prod.mk.inj heq
  obtain ⟨hkeys, hfields⟩ := distinct_obj.mp h.left
  exact ⟨value, filter_key_eq_singleton hkeys hvalue, hfields _ hvalue,
    (distinct_obj.mp h.right).2 _ hfield, hsorted⟩

theorem no_field {name : String} (hname : name ∉ others.map Prod.fst) :
    fields.filter (fun field => field.1 == name) = [] := by
  rw [List.filter_eq_nil_iff]
  intro field hmem heq
  exact hname (h.keys.mem_iff.mp (List.mem_map.mpr ⟨field, hmem, eq_of_beq heq⟩))

end

/-- Without one of the fields, the others are still the same. -/
theorem without {name : String} {fields others : List (String × Json)}
    (h : (obj fields).Reorders (obj ((name, other) :: others))) :
    (obj (fields.filter fun field => field.1 != name)).Reorders (obj others) := by
  obtain ⟨⟨hleft, hright⟩, hperm⟩ := reorders_obj_iff.mp h
  obtain ⟨hkeys, hfields⟩ := distinct_obj.mp hleft
  obtain ⟨hkeys', hothers⟩ := distinct_obj.mp hright
  obtain ⟨hname, hkeys'⟩ := List.nodup_cons.mp hkeys'
  refine reorders_obj_iff.mpr ⟨⟨distinct_obj.mpr ⟨?_, ?_⟩, distinct_obj.mpr ⟨hkeys', ?_⟩⟩, ?_⟩
  · exact hkeys.sublist (List.filter_sublist.map _)
  · exact fun field hmem => hfields field (List.mem_of_mem_filter hmem)
  · exact fun field hmem => hothers field (List.mem_cons_of_mem _ hmem)
  · have hrest : ((name, other) :: others).filter (fun field => field.1 != name) = others := by
      rw [List.filter_cons_of_neg (by simp), List.filter_eq_self]
      intro field hmem
      exact bne_iff_ne.mpr fun heq => hname (List.mem_map.mpr ⟨field, hmem, heq⟩)
    have hfilter := hperm.filter fun field => field.1 != name
    rw [List.filter_map, List.filter_map] at hfilter
    rw [← hrest]
    exact hfilter

end Reorders

end Json

end DeliveryGate
