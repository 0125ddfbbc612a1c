import DeliveryGate.Filter.Comparison
import Mathlib.Data.Finset.Basic
import Mathlib.Data.Finset.Dedup

/-!
# Sets of texts

The operators over arrays compare two finite sets: the texts of the items of the actual array, and
the items of the authored list. `anyIn` asks whether the sets meet (`Operator.anyIn_iff`), `allIn`
whether the authored one is not empty and lies in the other (`Operator.allIn_iff`). Whatever else is
said about them in `Operator.arrayOperators_setwise` follows from these two.
-/

namespace DeliveryGate

/-- The texts of the items of an array. -/
def Json.textSet (items : List Json) : Finset String := (items.map text).toFinset

/-- The items of an authored list, in no order. -/
def Authored.wanted (expected : String) : Finset String := (list expected).toFinset

theorem Json.mem_textSet {items : List Json} {s : String} :
    s ∈ textSet items ↔ ∃ item ∈ items, item.text = s := by
  rw [textSet, List.mem_toFinset, List.mem_map]

theorem Json.textSet_mono {items others : List Json} (h : items ⊆ others) :
    textSet items ⊆ textSet others := by
  intro s hs
  obtain ⟨item, hitem, rfl⟩ := mem_textSet.mp hs
  exact mem_textSet.mpr ⟨item, h hitem, rfl⟩

theorem Authored.mem_wanted {expected s : String} : s ∈ wanted expected ↔ s ∈ list expected :=
  List.mem_toFinset

namespace Operator

variable {items : List Json} {expected : String}

/-- Whether an array with these items passes the comparison. -/
def onItems (operator : Operator) (expected : String) (items : List Json) : Bool :=
  operator.holds (some (.arr items)) expected

/-- A test of arrays that sees the set of the items' texts alone, and that no further text makes
fail. -/
structure Setwise (test : List Json → Bool) : Prop where
  same : ∀ {items others}, Json.textSet items = Json.textSet others → test items = test others
  more : ∀ {items others}, Json.textSet items ⊆ Json.textSet others →
    test items = true → test others = true

/-- A test that no further text makes fail gives the same verdict on the same texts. -/
theorem Setwise.of_more {test : List Json → Bool}
    (h : ∀ {items others}, Json.textSet items ⊆ Json.textSet others →
      test items = true → test others = true) : Setwise test where
  same heq := Bool.eq_iff_iff.mpr ⟨h heq.subset, h heq.symm.subset⟩
  more := h

theorem isIn_iff {value : Json} :
    isIn.holds (some value) expected = true ↔ value.text ∈ Authored.wanted expected := by
  rw [Authored.mem_wanted, holds, memberOf, List.contains_iff_mem]

/-- To be in a list is to equal one of its items. -/
theorem isIn_iff_exists_equal {actual : Option Json} : isIn.holds actual expected = true ↔
    ∃ s ∈ Authored.list expected, equal.holds actual s = true := by
  cases actual with
  | none => simp [holds, memberOf, textEqual]
  | some value =>
    rw [isIn_iff, Authored.mem_wanted]
    simp [holds, textEqual]

/-- `anyIn` asks whether the two sets meet. -/
theorem anyIn_iff : anyIn.onItems expected items = true ↔
    (Authored.wanted expected ∩ Json.textSet items).Nonempty := by
  rw [onItems, holds, holdsAny, List.any_eq_true, Finset.Nonempty]
  refine exists_congr fun s => ?_
  rw [Finset.mem_inter, Authored.mem_wanted, Json.textSet, List.mem_toFinset, List.contains_iff_mem]

/-- `allIn` asks whether the authored set, if there is anything in it, lies in the other. -/
theorem allIn_iff : allIn.onItems expected items = true ↔
    (Authored.wanted expected).Nonempty ∧ Authored.wanted expected ⊆ Json.textSet items := by
  rw [onItems, holds, holdsAll, Bool.and_eq_true, List.all_eq_true, Authored.wanted,
    List.toFinset_nonempty_iff, Bool.not_eq_true', List.isEmpty_eq_false_iff]
  refine and_congr_right fun _ => forall_congr' fun s => ?_
  rw [List.mem_toFinset, Json.textSet, List.mem_toFinset, List.contains_iff_mem]

theorem anyIn_iff_exists_isIn : anyIn.onItems expected items = true ↔
    ∃ item ∈ items, isIn.holds (some item) expected = true := by
  rw [anyIn_iff]
  constructor
  · rintro ⟨s, hs⟩
    obtain ⟨hwanted, htext⟩ := Finset.mem_inter.mp hs
    obtain ⟨item, hitem, rfl⟩ := Json.mem_textSet.mp htext
    exact ⟨item, hitem, isIn_iff.mpr hwanted⟩
  · rintro ⟨item, hitem, hin⟩
    have htext : item.text ∈ Json.textSet items := Json.mem_textSet.mpr ⟨item, hitem, rfl⟩
    exact ⟨item.text, Finset.mem_inter.mpr ⟨isIn_iff.mp hin, htext⟩⟩

theorem allIn_iff_forall : allIn.onItems expected items = true ↔
    Authored.list expected ≠ [] ∧
      ∀ wanted ∈ Authored.list expected, ∃ item ∈ items, item.text = wanted := by
  rw [allIn_iff, Authored.wanted, List.toFinset_nonempty_iff]
  refine and_congr_right fun _ => forall_congr' fun s => ?_
  rw [List.mem_toFinset, Json.mem_textSet]

theorem anyIn_of_allIn (h : allIn.onItems expected items = true) :
    anyIn.onItems expected items = true := by
  obtain ⟨hnonempty, hsubset⟩ := allIn_iff.mp h
  rw [anyIn_iff, Finset.inter_eq_left.mpr hsubset]
  exact hnonempty

theorem anyIn_setwise (expected : String) : Setwise (anyIn.onItems expected) :=
  .of_more fun hsubset h =>
    anyIn_iff.mpr ((anyIn_iff.mp h).mono (Finset.inter_subset_inter_left hsubset))

theorem allIn_setwise (expected : String) : Setwise (allIn.onItems expected) := by
  refine .of_more fun hsubset h => ?_
  obtain ⟨hnonempty, hwanted⟩ := allIn_iff.mp h
  exact allIn_iff.mpr ⟨hnonempty, hwanted.trans hsubset⟩

theorem anyIn_allIn_of_not_array {actual : Option Json} (expected : String)
    (h : ∀ items, actual ≠ some (.arr items)) :
    anyIn.holds actual expected = false ∧ allIn.holds actual expected = false := by
  constructor
  · rw [holds, holdsAny]
    exact h
  · rw [holds, holdsAll]
    exact h

/-- The operators over arrays compare the set of the items' texts with that of the authored list:
`anyIn` asks for one item that is in the list, `allIn` for all of a list that is not empty. Both
fail where there is no array. -/
theorem arrayOperators_setwise (expected : String) :
    (∀ items,
      (anyIn.onItems expected items = true ↔
        ∃ item ∈ items, isIn.holds (some item) expected = true) ∧
      (allIn.onItems expected items = true ↔
        Authored.list expected ≠ [] ∧
          ∀ wanted ∈ Authored.list expected, ∃ item ∈ items, item.text = wanted) ∧
      (allIn.onItems expected items = true → anyIn.onItems expected items = true)) ∧
    (Setwise (anyIn.onItems expected) ∧ Setwise (allIn.onItems expected)) ∧
    (∀ actual : Option Json, (∀ items, actual ≠ some (.arr items)) →
      anyIn.holds actual expected = false ∧ allIn.holds actual expected = false) :=
  ⟨fun _ => ⟨anyIn_iff_exists_isIn, allIn_iff_forall, anyIn_of_allIn⟩,
    ⟨anyIn_setwise expected, allIn_setwise expected⟩, fun _ => anyIn_allIn_of_not_array expected⟩

/-- An integer counts as the string with its digits, and a further item does no harm; the string
itself is no array. -/
theorem arrayOperators_setwise_digits :
    Json.textSet [.str "a", .int 7] = Json.textSet [.int 7, .str "a", .str "7"] ∧
      allIn.onItems "7, a" [.int 7, .str "a", .str "7"] = true ∧
      anyIn.onItems "7, a" [.null, .int 7, .str "a", .str "7"] = true ∧
      anyIn.holds (some (.str "7")) "7, a" = false := by
  obtain ⟨hitems, ⟨hany, hall⟩, hother⟩ := arrayOperators_setwise "7, a"
  have htexts : Json.textSet [.str "a", .int 7] = Json.textSet [.int 7, .str "a", .str "7"] := by
    decide
  have hpass : allIn.onItems "7, a" [.int 7, .str "a", .str "7"] = true := by
    rw [← hall.same htexts]
    decide
  have hmore : anyIn.onItems "7, a" [.null, .int 7, .str "a", .str "7"] = true :=
    hany.more (Json.textSet_mono (List.subset_cons_self ..)) ((hitems _).2.2 hpass)
  exact ⟨htexts, hpass, hmore, (hother _ fun _ h => by cases h).1⟩

end Operator

end DeliveryGate
