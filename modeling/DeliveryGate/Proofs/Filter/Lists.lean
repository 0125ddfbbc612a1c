import DeliveryGate.Filter.Comparison
import DeliveryGate.Proofs.Document.Parsing
import DeliveryGate.Proofs.Text.Pieces

/-!
# Authored lists

A list may be spelled as a JSON array or by commas. Both spellings are read back as the list that
was written: an array of any strings (`Authored.list_compact_str`), and items with blanks around
them, as long as the items themselves are free of commas and of blanks at their ends
(`Authored.list_joined`). What is read by commas has such items and no others
(`Authored.isItem_of_mem_commaItems`). The two grammars do not get in each other's way: the first
character decides, and only a text that is no JSON array although it starts like one is read by
commas after all.
-/

namespace DeliveryGate

open Text (Blank Trimmed)

namespace Authored

/-! ### Items between commas -/

/-- A text that may stand between commas as it is. -/
structure IsItem (item : String) : Prop where
  nonempty : item ≠ ""
  noComma : ',' ∉ item.toList
  trimmed : Trimmed item.toList

instance (item : String) : Decidable (IsItem item) :=
  decidable_of_iff (item ≠ "" ∧ ',' ∉ item.toList ∧ Trimmed item.toList)
    ⟨fun h => ⟨h.1, h.2.1, h.2.2⟩, fun h => ⟨h.nonempty, h.noComma, h.trimmed⟩⟩

/-- Whatever is read between commas is an item. -/
theorem isItem_of_mem_commaItems {cs : List Char} {item : String} (h : item ∈ commaItems cs) :
    IsItem item := by
  obtain ⟨trimmed, htrimmed, rfl⟩ := List.mem_map.mp h
  obtain ⟨hmem, hnonempty⟩ := List.mem_filter.mp htrimmed
  obtain ⟨piece, hpiece, rfl⟩ := List.mem_map.mp hmem
  refine ⟨fun hempty => ?_, fun hcomma => ?_, ?_⟩
  · rw [String.ofList_eq_empty_iff] at hempty
    rw [hempty] at hnonempty
    cases hnonempty
  · rw [String.toList_ofList] at hcomma
    exact Text.separator_not_mem hpiece ((Text.trim_sublist piece).subset hcomma)
  · rw [String.toList_ofList]
    exact Text.trimmed_trim piece

/-- Blanks at the ends of a text do not change its items. -/
theorem commaItems_trim (cs : List Char) : commaItems (Text.trim cs) = commaItems cs := by
  rw [commaItems, commaItems, Text.map_trim_splitOn_trim (by decide)]

/-- An item as it is written, with blanks around it. -/
structure Spaced where
  before : List Char
  item : String
  behind : List Char
  before_blank : Blank before
  behind_blank : Blank behind

def Spaced.write (spaced : Spaced) : List Char :=
  spaced.before ++ (spaced.item.toList ++ spaced.behind)

/-- The text of a list with commas between the items. -/
def joined (items : List Spaced) : String :=
  String.ofList ([','].intercalate (items.map Spaced.write))

theorem Spaced.trim_write {spaced : Spaced} (h : IsItem spaced.item) :
    Text.trim spaced.write = spaced.item.toList := by
  rw [write, Text.trim_append spaced.before_blank spaced.behind_blank, Text.trim_eq_self h.trimmed]

theorem Spaced.comma_not_mem_write {spaced : Spaced} (h : IsItem spaced.item) :
    ',' ∉ spaced.write := by
  rw [write, List.mem_append, List.mem_append, not_or, not_or]
  exact ⟨spaced.before_blank.separator_not_mem (by decide), h.noComma,
    spaced.behind_blank.separator_not_mem (by decide)⟩

theorem commaItems_joined {items : List Spaced} (h : ∀ spaced ∈ items, IsItem spaced.item) :
    commaItems (joined items).toList = items.map Spaced.item := by
  cases items with
  | nil => rfl
  | cons first rest =>
    have hpieces : ∀ piece ∈ (first :: rest).map Spaced.write, ',' ∉ piece :=
      List.forall_mem_map.mpr fun spaced hmem => Spaced.comma_not_mem_write (h spaced hmem)
    have htrim : ((first :: rest).map Spaced.write).map Text.trim
        = (first :: rest).map fun spaced => spaced.item.toList := by
      rw [List.map_map]
      exact List.map_congr_left fun spaced hmem => Spaced.trim_write (h spaced hmem)
    have hnonempty : ∀ cs ∈ (first :: rest).map fun spaced => spaced.item.toList,
        (!cs.isEmpty) = true := by
      refine List.forall_mem_map.mpr fun spaced hmem => ?_
      simpa using (h spaced hmem).nonempty
    rw [joined, String.toList_ofList, commaItems,
      Text.splitOn_intercalate hpieces (List.cons_ne_nil _ _), htrim,
      List.filter_eq_self.mpr hnonempty, List.map_map]
    exact List.map_congr_left fun spaced _ => String.ofList_toList

/-! ### The two grammars -/

section

variable {text : String} {values : List Json}

/-- A text that does not start with a bracket is read by commas. -/
theorem list_of_head (h : (Text.trim text.toList).head? ≠ some '[') :
    list text = commaItems text.toList := by
  rw [list, ← commaItems_trim text.toList]
  split
  · rename_i heq
    rw [heq] at h
    exact absurd rfl h
  · rfl

/-- A text that is no JSON array is read by commas. -/
theorem list_of_not_array
    (h : ∀ values, Json.parse? (String.ofList (Text.trim text.toList)) ≠ some (.arr values)) :
    list text = commaItems text.toList := by
  rw [list, ← commaItems_trim text.toList]
  split
  · split
    · rename_i items heq
      exact absurd heq (h items)
    · rfl
  · rfl

/-- A JSON array is read as the texts of its items. -/
theorem list_of_array (htrimmed : Trimmed text.toList) (hhead : text.toList.head? = some '[')
    (h : Json.parse? text = some (.arr values)) : list text = values.map Json.text := by
  obtain ⟨rest, hrest⟩ := List.head?_eq_some_iff.mp hhead
  rw [list, Text.trim_eq_self htrimmed, String.ofList_toList]
  rw [hrest]
  simp only [h]

end

/-! ### Arrays -/

/-- The text of an array starts and ends with a bracket. -/
theorem exists_write_arr (layout : Json.Layout) (values : List Json) :
    ∃ middle, layout.write 0 (.arr values) = '[' :: (middle ++ [']']) := by
  have hitems : ∀ rest : List Json, ∃ middle, layout.writeItems 0 rest = middle ++ [']'] := by
    intro rest
    induction rest with
    | nil => exact ⟨_, rfl⟩
    | cons item rest ih =>
      obtain ⟨middle, hmiddle⟩ := ih
      refine ⟨',' :: (layout.line 1 ++ (layout.write 1 item ++ middle)), ?_⟩
      rw [Json.Layout.writeItems, hmiddle]
      simp
  cases values with
  | nil => exact ⟨[], rfl⟩
  | cons item rest =>
    obtain ⟨middle, hmiddle⟩ := hitems rest
    refine ⟨layout.line 1 ++ (layout.write 1 item ++ middle), ?_⟩
    rw [Json.Layout.write, hmiddle]
    simp

/-- A canonical array is read from its text, however this is laid out, if no number in it is a
double and its brackets are not nested too deep. -/
theorem list_write (layout : Json.Layout) {values : List Json}
    (hcanonical : (Json.arr values).canonical = true)
    (hdouble : (Json.arr values).doubleFree = true)
    (hnesting : (Json.arr values).nesting ≤ Json.Raw.deepest) :
    list (String.ofList (layout.write 0 (.arr values))) = values.map Json.text := by
  obtain ⟨middle, hwrite⟩ := exists_write_arr layout values
  refine list_of_array ?_ ?_ (Json.parse?_write layout hcanonical hdouble hnesting)
  · rw [String.toList_ofList, hwrite, ← List.cons_append]
    refine ⟨fun c hc => ?_, fun c hc => ?_⟩
    · obtain rfl := Option.some.inj hc
      rfl
    · rw [List.getLast?_concat] at hc
      obtain rfl := Option.some.inj hc
      rfl
  · rw [String.toList_ofList, hwrite]
    rfl

theorem list_compact {values : List Json} (hcanonical : (Json.arr values).canonical = true)
    (hdouble : (Json.arr values).doubleFree = true)
    (hnesting : (Json.arr values).nesting ≤ Json.Raw.deepest) :
    list (Json.arr values).compact = values.map Json.text := by
  have hwrite := list_write .dense hcanonical hdouble hnesting
  rwa [Json.Layout.write_dense] at hwrite

/-- Scalars that stand for their texts are read back from an array of them. -/
theorem list_compact_bare {values : List Json} (h : ∀ value ∈ values, value.isBare = true) :
    list (Json.arr values).compact = values.map Json.text := by
  have hreadable := fun value hmem => Json.readable_of_isBare (h value hmem)
  have hnesting : Json.nestingItems values ≤ 0 :=
    Json.nestingItems_le_iff.mpr fun value hmem => (hreadable value hmem).2.2.le
  refine list_compact ?_ ?_ ?_
  · rw [Json.canonical, Json.all, Json.allItems_eq_true_iff]
    exact fun value hmem => (hreadable value hmem).1
  · rw [Json.doubleFree, Json.all, Json.allItems_eq_true_iff]
    exact fun value hmem => (hreadable value hmem).2.1
  · rw [Json.nesting, Json.Raw.deepest]
    omega

/-- Any strings are read back from an array of them. -/
theorem list_compact_str (items : List String) :
    list (Json.arr (items.map .str)).compact = items := by
  rw [list_compact_bare (List.forall_mem_map.mpr fun _ _ => rfl), List.map_map]
  exact List.map_id items

/-! ### Spellings -/

/-- Behind its blanks a list between commas starts with its first item. -/
theorem head?_trimStart_joined {first : Spaced} (h : IsItem first.item) (rest : List Spaced) :
    (Text.trimStart (joined (first :: rest)).toList).head? = first.item.toList.head? := by
  obtain ⟨tail, htail⟩ : ∃ tail, (joined (first :: rest)).toList
      = first.before ++ (first.item.toList ++ tail) := by
    rw [joined, String.toList_ofList, List.map_cons]
    cases rest with
    | nil => exact ⟨first.behind, by rw [List.map_nil, List.intercalate_singleton, Spaced.write]⟩
    | cons next rest =>
      refine ⟨first.behind ++ ',' :: [','].intercalate ((next :: rest).map Spaced.write), ?_⟩
      rw [List.map_cons, List.intercalate_cons_cons, Spaced.write]
      simp
  obtain ⟨c, cs, hitem⟩ := List.exists_cons_of_ne_nil
    fun hnil => h.nonempty (String.toList_eq_nil_iff.mp hnil)
  have hstart : ∀ d ∈ (c :: cs ++ tail).head?, Text.isBlank d = false := by
    intro d hd
    exact h.trimmed.start d (by rwa [hitem])
  rw [htail, Text.trimStart_append first.before_blank, hitem, Text.trimStart_eq_self hstart]
  rfl

/-- Items between commas are read back if the first of them does not look like the start of an
array. -/
theorem list_joined {items : List Spaced} (h : ∀ spaced ∈ items, IsItem spaced.item)
    (hfirst : ∀ first ∈ items.head?, first.item.toList.head? ≠ some '[') :
    list (joined items) = items.map Spaced.item := by
  rw [list_of_head, commaItems_joined h]
  intro hbracket
  cases items with
  | nil => cases hbracket
  | cons first rest =>
    refine hfirst first rfl ?_
    rw [← head?_trimStart_joined (h first (List.mem_cons_self ..)) rest]
    exact Text.head?_trimStart_of_trim hbracket

/-- A list is read back from both of its spellings: from an array of any strings, and from items
between commas with blanks around them. A text that is no array has nothing but such items. -/
theorem list_spellings :
    (∀ items : List String, list (Json.arr (items.map .str)).compact = items) ∧
    (∀ items : List Spaced, (∀ spaced ∈ items, IsItem spaced.item) →
      (∀ first ∈ items.head?, first.item.toList.head? ≠ some '[') →
        list (joined items) = items.map Spaced.item) ∧
    (∀ text : String,
      (∀ values, Json.parse? (String.ofList (Text.trim text.toList)) ≠ some (.arr values)) →
        ∀ item ∈ list text, IsItem item) := by
  refine ⟨list_compact_str, fun _ => list_joined, fun text harray item hmem => ?_⟩
  rw [list_of_not_array harray] at hmem
  exact isItem_of_mem_commaItems hmem

/-- Strings that look like lists themselves, blanks beyond ASCII around an item with a bracket, and
an array that is never closed. -/
theorem list_spellings_awkward :
    list (Json.arr (["", " a,b\n", "[\"c\"]"].map .str)).compact = ["", " a,b\n", "[\"c\"]"] ∧
      (IsItem "pro" ∧ IsItem "[team] 2") ∧
      list (joined [⟨[' '], "pro", [], by decide, by decide⟩,
        ⟨['\u2003', '\t'], "[team] 2", ['\u0085'], by decide, by decide⟩]) = ["pro", "[team] 2"] ∧
      Json.parse? "[pro, ,team" = none ∧ ∀ item ∈ list " [pro, ,team", IsItem item := by
  have hitems : IsItem "pro" ∧ IsItem "[team] 2" := by decide
  have hparse : Json.parse? "[pro, ,team" = none := rfl
  refine ⟨list_spellings.1 _, hitems, list_spellings.2.1 _ ?_ ?_, hparse, list_spellings.2.2 _ ?_⟩
  · exact List.forall_mem_cons.mpr ⟨hitems.1, List.forall_mem_singleton.mpr hitems.2⟩
  · rintro _ ⟨⟩
    decide
  · intro values harray
    cases hparse.symm.trans harray

end Authored

end DeliveryGate
