import DeliveryGate.Filter.Path
import DeliveryGate.Proofs.Json.Canonical
import DeliveryGate.Proofs.Number.Digits
import DeliveryGate.Proofs.Text.Pieces
import Mathlib.Data.List.Forall2

/-!
# Positions in a value

Keys of objects and indices of arrays lead from a value to its parts (`Json.At`). A path leads where
its segments do: each names a key, or spells an index in any of the ways in which numerals are read
(`Json.Step.Names`). So a path finds nothing but parts (`Json.at_of_follow?`), and finds each part
whose position can be told by a path (`Json.follow?_of_at`): one without points in its keys that is
not written as the empty text. A path of two legs is walked in two legs (`segments_append`).
-/

namespace DeliveryGate

/-! ### Segments -/

section

variable {p q : String}

theorem segments_of_ne (h : p ≠ "") :
    segments p = (Text.splitOn '.' p.toList).map String.ofList := by
  rw [segments, if_neg]
  simpa using h

/-- A path that is put together with a point has the segments of both of its parts. -/
theorem segments_append (hp : p ≠ "") (hq : q ≠ "") :
    segments (p ++ "." ++ q) = segments p ++ segments q := by
  have hjoined : p ++ "." ++ q ≠ "" := by simp [hq]
  have hsplit : Text.splitOn '.' (p.toList ++ '.' :: q.toList)
      = Text.splitOn '.' p.toList ++ Text.splitOn '.' q.toList := by
    rw [Text.splitOn_eq, Text.splitOn_eq, Text.splitOn_eq, List.splitOn_append_cons_self]
  have htext : (p ++ "." ++ q).toList = p.toList ++ '.' :: q.toList := by simp
  rw [segments_of_ne hjoined, segments_of_ne hp, segments_of_ne hq, htext, hsplit, List.map_append]

end

namespace Json

/-! ### Steps -/

/-- A step into a value: to a field of an object or to an item of an array. An index is a word of 64
bits, as the length of an array is. -/
inductive Step where
  | key (name : String)
  | index (i : UInt64)

namespace Step

/-- The segment by which a step is written: a key as it is, an index in decimal. -/
def text : Step → String
  | key name => name
  | index i => toString i.toNat

/-- A segment is one by which a step may be told. -/
def Names (segment : String) : Step → Prop
  | key name => segment = name
  | index i => index? segment = some i.toNat

theorem index?_toString {n : Nat} (h : n < 0x10000000000000000) : index? (toString n) = some n := by
  have hdigits : (toString n).toList = Binary64.decimalDigits n := String.toList_ofList
  rw [index?, Number.unsigned?_eq_some_iff, hdigits]
  exact ⟨⟨_, Or.inl rfl, Number.spells_decimalDigits n⟩, h⟩

theorem names_text : ∀ step : Step, Names step.text step
  | key _ => rfl
  | index i => index?_toString i.toNat_lt

theorem point_not_mem_text {step : Step} (h : ∀ name, step = key name → '.' ∉ name.toList) :
    '.' ∉ step.text.toList := by
  cases step with
  | key name => exact h name rfl
  | index i =>
    have hdigits : (toString i.toNat).toList = Binary64.decimalDigits i.toNat :=
      String.toList_ofList
    rw [text, hdigits]
    intro hmem
    exact absurd (Binary64.isDigit_of_mem_decimalDigits hmem) (by decide)

end Step

/-- The path that tells some steps: their segments with points between them. -/
def dotted (steps : List Step) : String := ".".intercalate (steps.map Step.text)

variable {steps : List Step} {path : List String} {value part : Json}

/-- The segments of a path are read back from it, as long as no point is part of one and there is
anything to read. -/
theorem segments_dotted (hkeys : ∀ name, Step.key name ∈ steps → '.' ∉ name.toList)
    (hne : dotted steps ≠ "") : segments (dotted steps) = steps.map Step.text := by
  have htext : (dotted steps).toList
      = ['.'].intercalate ((steps.map Step.text).map String.toList) := String.toList_intercalate
  have hpoints : ∀ piece ∈ (steps.map Step.text).map String.toList, '.' ∉ piece := by
    rw [List.map_map, List.forall_mem_map]
    exact fun step hstep => Step.point_not_mem_text fun name heq => hkeys name (heq ▸ hstep)
  have hsome : (steps.map Step.text).map String.toList ≠ [] := by
    rintro hnil
    rw [List.map_eq_nil_iff, List.map_eq_nil_iff] at hnil
    exact hne (hnil ▸ rfl)
  rw [segments_of_ne hne, htext, Text.splitOn_intercalate hpoints hsome, List.map_map]
  exact (List.map_congr_left fun s _ => String.ofList_toList).trans (List.map_id _)

/-! ### Parts -/

/-- Some steps lead from a value to a part of it; no steps at all lead to the value itself. -/
inductive At : List Step → Json → Json → Prop
  | here {value : Json} : At [] value value
  | field {key : String} {child part : Json} {fields : List (String × Json)} {steps : List Step}
      (hfield : (key, child) ∈ fields) (hrest : At steps child part) :
      At (.key key :: steps) (.obj fields) part
  | item {i : UInt64} {child part : Json} {items : List Json} {steps : List Step}
      (hitem : items[i.toNat]? = some child) (hrest : At steps child part) :
      At (.index i :: steps) (.arr items) part

/-- Where keys are distinct, each field is found under its key. -/
theorem lookup_of_mem {key : String} {child : Json} :
    ∀ {fields : List (String × Json)}, (fields.map Prod.fst).Nodup → (key, child) ∈ fields →
      fields.lookup key = some child
  | [], _, hmem => nomatch hmem
  | (other, value) :: rest, hkeys, hmem => by
    rw [List.map_cons, List.nodup_cons] at hkeys
    rcases List.mem_cons.mp hmem with heq | hmem
    · obtain ⟨rfl, rfl⟩ := Prod.mk.inj heq
      exact List.lookup_cons_self
    · have hother : (key == other) = false :=
        beq_eq_false_iff_ne.mpr fun heq => hkeys.1 (List.mem_map.mpr ⟨_, hmem, heq⟩)
      rw [List.lookup_cons, hother]
      exact lookup_of_mem hkeys.2 hmem

theorem mem_of_lookup {key : String} {child : Json} {fields : List (String × Json)}
    (h : fields.lookup key = some child) : (key, child) ∈ fields := by
  obtain ⟨before, after, rfl, -⟩ := List.lookup_eq_some_iff.mp h
  exact List.mem_append_right _ (List.mem_cons_self ..)

/-- Segments that tell the steps to a part find this part. -/
theorem follow?_of_at (h : At steps value part) (hdistinct : value.distinct = true)
    (hnames : List.Forall₂ Step.Names path steps) : follow? path value = some part := by
  induction h generalizing path with
  | here =>
    cases hnames
    rfl
  | field hfield hrest ih =>
    obtain ⟨hkeys, hfields⟩ := distinct_obj.mp hdistinct
    cases hnames with
    | cons hname hnames =>
      obtain rfl : _ = _ := hname
      rw [follow?, child?, lookup_of_mem hkeys hfield, Option.bind_some]
      exact ih (hfields _ hfield) hnames
  | item hitem hrest ih =>
    cases hnames with
    | cons hname hnames =>
      have hindex : index? _ = some _ := hname
      rw [follow?, child?, hindex, Option.bind_some, hitem, Option.bind_some]
      exact ih (distinct_arr.mp hdistinct _ (List.mem_of_getElem? hitem)) hnames

/-- Whatever segments find is a part, and the segments tell the steps to it. -/
theorem at_of_follow? (h : follow? path value = some part) :
    ∃ steps, List.Forall₂ Step.Names path steps ∧ At steps value part := by
  induction path generalizing value with
  | nil =>
    cases h
    exact ⟨[], .nil, .here⟩
  | cons segment rest ih =>
    obtain ⟨child, hchild, h⟩ := Option.bind_eq_some_iff.mp h
    obtain ⟨steps, hnames, hrest⟩ := ih h
    cases value with
    | obj fields =>
      exact ⟨.key segment :: steps, .cons rfl hnames, .field (mem_of_lookup hchild) hrest⟩
    | arr items =>
      obtain ⟨i, hindex, hitem⟩ := Option.bind_eq_some_iff.mp hchild
      -- an index that is read from a segment is a word
      have hword : i < UInt64.size := (Number.unsigned?_eq_some_iff.mp hindex).2
      have hi : (UInt64.ofNatLT i hword).toNat = i := UInt64.toNat_ofNatLT
      refine ⟨.index (UInt64.ofNatLT i hword) :: steps, .cons ?_ hnames, .item ?_ hrest⟩
      · rw [Step.Names, hi]
        exact hindex
      · rw [hi]
        exact hitem
    | null | bool | int | double | str => cases hchild

/-! ### Paths -/

/-- A path of two parts is followed part by part. Each part of a value is found by the path of its
position, unless this path is empty or a key in it has a point, and nothing but parts is found. No
object has a key twice in any value that is read, which is what `value.distinct` asks. -/
theorem resolve?_parts (value : Json) :
    (∀ p q : String, p ≠ "" → q ≠ "" → value.resolve? (p ++ "." ++ q)
      = (value.resolve? p).bind fun part => part.resolve? q) ∧
    (value.distinct = true → ∀ steps part, At steps value part →
      (∀ name, Step.key name ∈ steps → '.' ∉ name.toList) → dotted steps ≠ "" →
        value.resolve? (dotted steps) = some part) ∧
    (∀ path part, value.resolve? path = some part → ∃ steps, At steps value part) := by
  refine ⟨fun p q hp hq => ?_, fun hdistinct steps part hat hkeys hne => ?_, fun path part h => ?_⟩
  · rw [resolve?, segments_append hp hq, follow?_append]
    rfl
  · rw [resolve?, segments_dotted hkeys hne]
    refine follow?_of_at hat hdistinct (List.forall₂_map_left_iff.mpr ?_)
    exact List.forall₂_same.mpr fun step _ => step.names_text
  · obtain ⟨steps, -, hat⟩ := at_of_follow? h
    exact ⟨steps, hat⟩

/-- Keys that are empty, that look like numbers, and that have a blank. -/
def nested : Json :=
  .obj [("", .obj [("0", .arr [.null, .obj [("7", .str "seven"), ("a b", .arr [.bool true])]])])]

/-- A position is found by its path; it is also found in two legs, the first of which has a sign and
a zero in front of its index. -/
theorem resolve?_parts_nested :
    nested.distinct = true ∧
      At [.key "", .key "0", .index 1, .key "a b", .index 0] nested (.bool true) ∧
      nested.resolve? ".0.1.a b.0" = some (.bool true) ∧
      nested.resolve? ".0.+01" = some (.obj [("7", .str "seven"), ("a b", .arr [.bool true])]) ∧
      nested.resolve? (".0.+01" ++ "." ++ "a b.0") = some (.bool true) ∧
      ∃ steps, At steps nested (.str "seven") := by
  obtain ⟨hlegs, hfound, hparts⟩ := resolve?_parts nested
  have hdistinct : nested.distinct = true := by decide
  have hat : At [.key "", .key "0", .index 1, .key "a b", .index 0] nested (.bool true) :=
    .field (List.mem_cons_self ..) <| .field (List.mem_cons_self ..) <| .item rfl <|
      .field (List.mem_cons_of_mem _ (List.mem_cons_self ..)) <| .item rfl .here
  have hleg : nested.resolve? ".0.+01"
      = some (.obj [("7", .str "seven"), ("a b", .arr [.bool true])]) := rfl
  refine ⟨hdistinct, hat, hfound hdistinct _ _ hat ?_ (by decide), hleg, ?_, ?_⟩
  · intro name hname
    have hcases : name = "" ∨ name = "0" ∨ name = "a b" := by simpa using hname
    rcases hcases with rfl | rfl | rfl <;> decide
  · rw [hlegs _ _ (by decide) (by decide), hleg]
    rfl
  · exact hparts ".0.1.7" _ rfl

end Json

end DeliveryGate
