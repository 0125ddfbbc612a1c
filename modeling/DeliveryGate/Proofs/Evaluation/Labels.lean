import DeliveryGate.Evaluation.Usage
import Mathlib.Data.List.Induction
import Mathlib.Data.List.Nodup

/-!
# Labels in a summary

A summary is three lists of labels, each grown by one fold that adds what is not in it yet
(`Usage.foldl_add`). So it has the labels of all conditions, of those that passed and of those that
failed, each label once and in the order of first occurrence, and conditions with labels and
verdicts that were there before add nothing to it (`Usage.ofConditions_labels`).
-/

namespace DeliveryGate

namespace Usage

/-! ### Adding labels to a list -/

section

variable {name other : String} {known names : List String}

theorem insertOnce_of_mem (h : name ∈ known) : insertOnce name known = known :=
  if_pos (List.contains_iff_mem.mpr h)

theorem insertOnce_of_not_mem (h : name ∉ known) : insertOnce name known = known ++ [name] :=
  if_neg fun hcontains => h (List.contains_iff_mem.mp hcontains)

theorem mem_insertOnce : other ∈ insertOnce name known ↔ other ∈ known ∨ other = name := by
  by_cases h : name ∈ known
  · rw [insertOnce_of_mem h]
    exact ⟨Or.inl, fun hother => hother.elim id fun heq => heq ▸ h⟩
  · rw [insertOnce_of_not_mem h, List.mem_append, List.mem_singleton]

theorem nodup_insertOnce (h : known.Nodup) : (insertOnce name known).Nodup := by
  by_cases hmem : name ∈ known
  · rwa [insertOnce_of_mem hmem]
  · rw [insertOnce_of_not_mem hmem]
    exact List.nodup_append.mpr ⟨h, List.nodup_singleton name, fun a ha b hb heq =>
      hmem (List.mem_singleton.mp hb ▸ heq ▸ ha)⟩

theorem prefix_insertOnce : known <+: insertOnce name known := by
  by_cases hmem : name ∈ known
  · exact (insertOnce_of_mem hmem).symm ▸ List.prefix_rfl
  · rw [insertOnce_of_not_mem hmem]
    exact List.prefix_append known [name]

/-- A list of labels with some more, each added unless it is there. -/
def collect (known names : List String) : List String :=
  names.foldl (fun known name => insertOnce name known) known

theorem collect_cons : collect known (name :: names) = collect (insertOnce name known) names := rfl

theorem mem_collect : other ∈ collect known names ↔ other ∈ known ∨ other ∈ names := by
  induction names generalizing known with
  | nil => simp [collect]
  | cons name rest ih => rw [collect_cons, ih, mem_insertOnce, List.mem_cons, or_assoc]

theorem nodup_collect (h : known.Nodup) : (collect known names).Nodup := by
  induction names generalizing known with
  | nil => exact h
  | cons name rest ih => exact ih (nodup_insertOnce h)

theorem prefix_collect : known <+: collect known names := by
  induction names generalizing known with
  | nil => exact List.prefix_rfl
  | cons name rest ih => exact prefix_insertOnce.trans ih

/-- Labels that are all known add nothing. -/
theorem collect_of_subset (h : names ⊆ known) : collect known names = known := by
  induction names with
  | nil => rfl
  | cons name rest ih =>
    obtain ⟨hname, hrest⟩ := List.cons_subset.mp h
    rw [collect_cons, insertOnce_of_mem hname, ih hrest]

/-- What is collected from nothing are the labels in the order of first occurrence. -/
theorem collect_nil (names : List String) : collect [] names = names.eraseDups := by
  -- a label is judged by those before it, so labels are added at the end
  induction names using List.reverseRecOn with
  | nil => rfl
  | append_singleton names name ih =>
    have hlast : collect [] (names ++ [name]) = insertOnce name (collect [] names) :=
      List.foldl_append
    rw [hlast, ih, List.eraseDups_append]
    by_cases hmem : name ∈ names
    · rw [insertOnce_of_mem (List.mem_eraseDups.mpr hmem)]
      simp [List.removeAll, hmem]
    · rw [insertOnce_of_not_mem fun h => hmem (List.mem_eraseDups.mp h)]
      simp [List.removeAll, hmem, List.eraseDups_cons]

end

/-! ### Adding conditions to a summary -/

section

variable {usage : Usage} {conditions : List Condition} {name : String}

/-- The labels of some conditions, in their order. -/
def labels (conditions : List Condition) : List String :=
  conditions.map fun condition => label condition.filter

/-- The conditions that passed, or those that failed. -/
def withVerdict (passed : Bool) (conditions : List Condition) : List Condition :=
  conditions.filter fun condition => condition.passed == passed

theorem mem_labels_iff : name ∈ labels conditions ↔
    name ∈ labels (withVerdict true conditions) ∨ name ∈ labels (withVerdict false conditions) := by
  simp only [labels, withVerdict, List.mem_map, List.mem_filter, beq_iff_eq]
  constructor
  · rintro ⟨condition, hmem, rfl⟩
    cases hpassed : condition.passed with
    | true => exact Or.inl ⟨condition, ⟨hmem, hpassed⟩, rfl⟩
    | false => exact Or.inr ⟨condition, ⟨hmem, hpassed⟩, rfl⟩
  · rintro (⟨condition, ⟨hmem, -⟩, rfl⟩ | ⟨condition, ⟨hmem, -⟩, rfl⟩)
    · exact ⟨condition, hmem, rfl⟩
    · exact ⟨condition, hmem, rfl⟩

/-- Each list of a summary grows on its own. -/
theorem foldl_add (usage : Usage) (conditions : List Condition) :
    conditions.foldl add usage =
      { filters := collect usage.filters (labels conditions)
        passedFilters := collect usage.passedFilters (labels (withVerdict true conditions))
        failedFilters := collect usage.failedFilters (labels (withVerdict false conditions)) } := by
  induction conditions generalizing usage with
  | nil => rfl
  | cons condition rest ih =>
    rw [List.foldl_cons, ih, add]
    cases hpassed : condition.passed <;> simp [labels, withVerdict, hpassed, collect]

/-- A summary has each label once in a list, and none that is not in the list of all. -/
structure Coherent (usage : Usage) : Prop where
  filters : usage.filters.Nodup
  passedFilters : usage.passedFilters.Nodup
  failedFilters : usage.failedFilters.Nodup
  passed_subset : usage.passedFilters ⊆ usage.filters
  failed_subset : usage.failedFilters ⊆ usage.filters

/-- The lists of a summary are continued by those of another one. -/
structure Continues (usage more : Usage) : Prop where
  filters : usage.filters <+: more.filters
  passedFilters : usage.passedFilters <+: more.passedFilters
  failedFilters : usage.failedFilters <+: more.failedFilters

theorem Coherent.foldl_add (h : usage.Coherent) (conditions : List Condition) :
    (conditions.foldl add usage).Coherent := by
  rw [Usage.foldl_add]
  refine ⟨nodup_collect h.filters, nodup_collect h.passedFilters, nodup_collect h.failedFilters,
    fun name hname => ?_, fun name hname => ?_⟩
  · exact mem_collect.mpr <| (mem_collect.mp hname).imp (fun hknown => h.passed_subset hknown)
      fun hnew => mem_labels_iff.mpr (Or.inl hnew)
  · exact mem_collect.mpr <| (mem_collect.mp hname).imp (fun hknown => h.failed_subset hknown)
      fun hnew => mem_labels_iff.mpr (Or.inr hnew)

theorem continues_foldl_add (usage : Usage) (conditions : List Condition) :
    usage.Continues (conditions.foldl add usage) := by
  rw [foldl_add]
  exact ⟨prefix_collect, prefix_collect, prefix_collect⟩

theorem ofConditions_eq (conditions : List Condition) :
    ofConditions conditions =
      { filters := (labels conditions).eraseDups
        passedFilters := (labels (withVerdict true conditions)).eraseDups
        failedFilters := (labels (withVerdict false conditions)).eraseDups } := by
  rw [ofConditions, foldl_add, ← collect_nil, ← collect_nil, ← collect_nil]
  rfl

theorem mem_filters_iff : name ∈ (ofConditions conditions).filters ↔
    name ∈ (ofConditions conditions).passedFilters ∨
      name ∈ (ofConditions conditions).failedFilters := by
  simp only [ofConditions_eq, List.mem_eraseDups]
  exact mem_labels_iff

/-- Conditions whose labels and verdicts were there before add nothing. -/
theorem ofConditions_append {xs ys : List Condition}
    (h : ∀ y ∈ ys, ∃ x ∈ xs, label x.filter = label y.filter ∧ x.passed = y.passed) :
    ofConditions (xs ++ ys) = ofConditions xs := by
  have hknown (passed : Bool) :
      labels (withVerdict passed ys) ⊆ labels (withVerdict passed xs) := by
    intro name hname
    obtain ⟨y, hy, rfl⟩ := List.mem_map.mp hname
    obtain ⟨hmem, hpassed⟩ := List.mem_filter.mp hy
    obtain ⟨x, hx, hlabel, hverdict⟩ := h y hmem
    exact List.mem_map.mpr ⟨x, List.mem_filter.mpr ⟨hx, hverdict ▸ hpassed⟩, hlabel⟩
  have hall : labels ys ⊆ labels xs := fun name hname =>
    mem_labels_iff.mpr ((mem_labels_iff.mp hname).imp (fun hp => hknown true hp)
      fun hf => hknown false hf)
  have hsplit : ofConditions (xs ++ ys) = ys.foldl add (ofConditions xs) := List.foldl_append
  rw [hsplit, foldl_add, ofConditions_eq xs]
  congr 1
  · exact collect_of_subset fun name hname => List.mem_eraseDups.mpr (hall hname)
  · exact collect_of_subset fun name hname => List.mem_eraseDups.mpr (hknown true hname)
  · exact collect_of_subset fun name hname => List.mem_eraseDups.mpr (hknown false hname)

end

/-! ### Summaries -/

/-- The label of a kind is its name in lower case, with one label for both presence kinds. -/
theorem label_eq (kind : String) : label kind =
    if Text.lower kind ∈ ["isonline", "isonlineinlast"] then "online" else Text.lower kind := by
  have honline : Text.lower Kind.isOnline.name = "isonline" := by decide
  have hlast : Text.lower Kind.isOnlineInLast.name = "isonlineinlast" := by decide
  simp only [label, honline, hlast, Bool.or_eq_true, beq_iff_eq, List.mem_cons, List.not_mem_nil,
    or_false]

/-- A summary has the labels of all conditions, of those that passed and of those that failed, each
once, in the order of first occurrence. Adding conditions to a coherent summary keeps it coherent
and only appends to it, and conditions that tell nothing new leave a summary as it is. -/
theorem ofConditions_labels :
    (∀ kind, label kind =
      if Text.lower kind ∈ ["isonline", "isonlineinlast"] then "online" else Text.lower kind) ∧
    (∀ conditions,
      ofConditions conditions =
        { filters := (labels conditions).eraseDups
          passedFilters := (labels (withVerdict true conditions)).eraseDups
          failedFilters := (labels (withVerdict false conditions)).eraseDups } ∧
      ∀ name, name ∈ (ofConditions conditions).filters ↔
        name ∈ (ofConditions conditions).passedFilters ∨
          name ∈ (ofConditions conditions).failedFilters) ∧
    (∀ usage : Usage, usage.Coherent → ∀ conditions : List Condition,
      (conditions.foldl add usage).Coherent ∧ usage.Continues (conditions.foldl add usage)) ∧
    (∀ xs ys,
      (∀ y ∈ ys, ∃ x ∈ xs, label x.filter = label y.filter ∧ x.passed = y.passed) →
        ofConditions (xs ++ ys) = ofConditions xs) ∧
    ∀ xs, ofConditions (xs ++ xs) = ofConditions xs :=
  ⟨label_eq, fun conditions => ⟨ofConditions_eq conditions, fun _ => mem_filters_iff⟩,
    fun usage husage conditions =>
      ⟨husage.foldl_add conditions, continues_foldl_add usage conditions⟩,
    fun _ _ => ofConditions_append, fun _ => ofConditions_append fun y hy => ⟨y, hy, rfl, rfl⟩⟩

/-- A condition of some kind. -/
def judged (kind : String) (passed : Bool) : Condition := ⟨kind, "", "", "", .equal, passed⟩

/-- What passed may come in another order than what was seen, both presence kinds have one label in
any spelling, and an accumulator may start with labels of its own. -/
theorem ofConditions_labels_outOfOrder :
    ofConditions [judged "Payload" false, judged "isOnlineInLast" true, judged "payload" true]
        = ⟨["payload", "online"], ["online", "payload"], ["payload"]⟩ ∧
      ofConditions ([judged "Payload" false, judged "isOnlineInLast" true, judged "payload" true]
          ++ [judged "ISONLINE" true, judged "PAYLOAD" false])
        = ⟨["payload", "online"], ["online", "payload"], ["payload"]⟩ ∧
      Coherent ⟨["webhook", "tenant"], ["tenant"], []⟩ ∧
      ([judged "webhook" true, judged "Payload" false].foldl add
        ⟨["webhook", "tenant"], ["tenant"], []⟩).Coherent := by
  obtain ⟨-, hlabels, hfold, happend, -⟩ := ofConditions_labels
  have hfirst : ofConditions [judged "Payload" false, judged "isOnlineInLast" true,
      judged "payload" true] = ⟨["payload", "online"], ["online", "payload"], ["payload"]⟩ := by
    rw [(hlabels _).1]
    decide +kernel
  have hcoherent : Coherent ⟨["webhook", "tenant"], ["tenant"], []⟩ :=
    ⟨by decide, by decide, by decide, by simp, by simp⟩
  refine ⟨hfirst, ?_, hcoherent, (hfold _ hcoherent _).1⟩
  rw [happend _ _ (by decide +kernel), hfirst]

end Usage

end DeliveryGate
