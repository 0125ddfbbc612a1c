import DeliveryGate.Text.Blank
import Mathlib.Data.List.DropRight

/-!
# Trimming and splitting

A text is trimmed if no blank stands at either end of it. To trim a text takes the blanks from its
ends and leaves a trimmed one (`exists_trim`, `trimmed_trim`). To split a text gives pieces without
the separator (`separator_not_mem`), and joining them gives the text back (`intercalate_splitOn`).
Where the separator is no blank, blanks at the two ends of a text do no harm to its pieces once
these are trimmed (`map_trim_splitOn_trim`).
-/

namespace DeliveryGate

namespace Text

/-! ### Trimming -/

/-- Nothing but blanks. -/
def Blank (cs : List Char) : Prop := ∀ c ∈ cs, isBlank c = true

/-- No blank stands at either end. -/
structure Trimmed (cs : List Char) : Prop where
  start : ∀ c ∈ cs.head?, isBlank c = false
  stop : ∀ c ∈ cs.getLast?, isBlank c = false

instance (cs : List Char) : Decidable (Blank cs) :=
  decidable_of_iff (cs.all isBlank = true) List.all_eq_true

instance (cs : List Char) : Decidable (Trimmed cs) :=
  decidable_of_iff ((cs.head?.all fun c => !isBlank c) = true ∧
      (cs.getLast?.all fun c => !isBlank c) = true) <| by
    simp only [Option.all_eq_true, Bool.not_eq_true']
    exact ⟨fun h => ⟨h.1, h.2⟩, fun h => ⟨h.start, h.stop⟩⟩

variable {cs before behind : List Char}

theorem trimEnd_eq (cs : List Char) : trimEnd cs = cs.rdropWhile isBlank := rfl

theorem trimStart_append (h : Blank before) (cs : List Char) :
    trimStart (before ++ cs) = trimStart cs := List.dropWhile_append_of_pos h

theorem trimStart_eq_self (h : ∀ c ∈ cs.head?, isBlank c = false) : trimStart cs = cs := by
  cases cs with
  | nil => rfl
  | cons c rest => exact List.dropWhile_cons_of_neg (by simp [h c rfl])

theorem trim_eq_self (h : Trimmed cs) : trim cs = cs := by
  rw [trim, trimStart_eq_self h.start, trimEnd_eq, List.rdropWhile_eq_self_iff]
  intro hne
  simp [h.stop _ (List.getLast?_eq_getLast_of_ne_nil hne)]

theorem trimmed_of_forall (h : ∀ c ∈ cs, isBlank c = false) : Trimmed cs :=
  ⟨fun c hc => h c (List.mem_of_mem_head? hc), fun c hc => h c (List.mem_of_mem_getLast? hc)⟩

/-- Trimming takes off nothing but blanks. -/
theorem exists_trim (cs : List Char) :
    ∃ before behind, Blank before ∧ Blank behind ∧ cs = before ++ (trim cs ++ behind) := by
  refine ⟨cs.takeWhile isBlank, (trimStart cs).rtakeWhile isBlank,
    fun c => List.mem_takeWhile_imp, fun c => List.mem_rtakeWhile_imp, ?_⟩
  rw [trim, trimEnd_eq, List.rdropWhile_append_rtakeWhile, trimStart,
    List.takeWhile_append_dropWhile]

theorem trim_sublist (cs : List Char) : (trim cs).Sublist cs :=
  (List.rdropWhile_prefix isBlank (trimStart cs)).sublist.trans (List.dropWhile_sublist isBlank)

theorem isBlank_of_mem_head?_trimStart {c : Char} (h : c ∈ (trimStart cs).head?) :
    isBlank c = false := by
  have hhead := List.head?_dropWhile_not isBlank cs
  rw [← trimStart, Option.mem_def.mp h] at hhead
  exact hhead

/-- A trimmed text starts as the text without its leading blanks does. -/
theorem head?_trimStart_of_trim {c : Char} (h : c ∈ (trim cs).head?) :
    c ∈ (trimStart cs).head? := by
  obtain ⟨rest, hrest⟩ := List.rdropWhile_prefix isBlank (trimStart cs)
  rw [← hrest]
  exact List.mem_head?_append_of_mem_head? h

theorem trimmed_trim (cs : List Char) : Trimmed (trim cs) where
  start _ hc := isBlank_of_mem_head?_trimStart (head?_trimStart_of_trim hc)
  stop c hc := by
    obtain ⟨hne, rfl⟩ := List.mem_getLast?_eq_getLast hc
    exact Bool.eq_false_iff.mpr (List.rdropWhile_last_not isBlank (trimStart cs) hne)

theorem trimEnd_append (h : Blank behind) (cs : List Char) :
    trimEnd (cs ++ behind) = trimEnd cs := by
  have hreverse : Blank behind.reverse := fun c hc => h c (List.mem_reverse.mp hc)
  rw [trimEnd, List.reverse_append, List.dropWhile_append_of_pos hreverse, trimEnd]

/-- Blanks around a text are taken off with its own. -/
theorem trim_append (hbefore : Blank before) (hbehind : Blank behind) (cs : List Char) :
    trim (before ++ (cs ++ behind)) = trim cs := by
  rw [trim, trimStart_append hbefore, trimStart, List.dropWhile_append]
  split
  · rename_i hempty
    have hcs : trimStart cs = [] := List.isEmpty_iff.mp hempty
    have hrest : behind.dropWhile isBlank = [] := List.dropWhile_eq_nil_iff.mpr hbehind
    rw [hrest, trim, hcs]
  · rw [trimEnd_append hbehind, trim, trimStart]

/-- Nothing is left of blanks, and of them alone. -/
theorem trim_eq_nil_iff : trim cs = [] ↔ Blank cs := by
  constructor
  · intro h
    obtain ⟨before, behind, hbefore, hbehind, hcs⟩ := exists_trim cs
    rw [h, List.nil_append] at hcs
    exact hcs ▸ List.forall_mem_append.mpr ⟨hbefore, hbehind⟩
  · intro h
    have hnothing := trim_append h (List.forall_mem_nil _) []
    rwa [List.append_nil, List.append_nil] at hnothing

/-! ### Splitting -/

section

variable {separator : Char} {piece : List Char} {pieces : List (List Char)}

/-- Texts are split as lists are. -/
theorem splitOn_eq (separator : Char) (cs : List Char) :
    splitOn separator cs = cs.splitOn separator := by
  induction cs with
  | nil => exact (List.splitOn_nil separator).symm
  | cons c rest ih =>
    rw [splitOn, ih, List.splitOn_cons_eq_if_modifyHead]
    cases hrest : rest.splitOn separator with
    | nil => exact absurd hrest (List.splitOn_ne_nil separator rest)
    | cons piece pieces => rfl

theorem intercalate_splitOn (separator : Char) (cs : List Char) :
    [separator].intercalate (splitOn separator cs) = cs := by
  rw [splitOn_eq, List.intercalate_splitOn]

theorem splitOn_intercalate (h : ∀ piece ∈ pieces, separator ∉ piece) (hne : pieces ≠ []) :
    splitOn separator ([separator].intercalate pieces) = pieces := by
  rw [splitOn_eq, List.splitOn_intercalate separator h hne]

theorem splitOn_ne_nil (separator : Char) (cs : List Char) : splitOn separator cs ≠ [] := by
  rw [splitOn_eq]
  exact List.splitOn_ne_nil separator cs

/-- No piece holds the separator. -/
theorem separator_not_mem (h : piece ∈ splitOn separator cs) : separator ∉ piece := by
  induction cs generalizing piece with
  | nil =>
    rw [List.mem_singleton.mp h]
    exact List.not_mem_nil
  | cons c rest ih =>
    rw [splitOn] at h
    split at h
    · rename_i hnil
      exact absurd hnil (splitOn_ne_nil separator rest)
    · rename_i first more hpieces
      rw [hpieces] at ih
      split at h
      · rcases List.mem_cons.mp h with rfl | h
        · exact List.not_mem_nil
        · exact ih h
      · rename_i hne
        rcases List.mem_cons.mp h with rfl | h
        · have hother : separator ≠ c := fun heq => hne (beq_iff_eq.mpr heq.symm)
          exact List.not_mem_cons_of_ne_of_not_mem hother (ih (List.mem_cons_self ..))
        · exact ih (List.mem_cons_of_mem _ h)

/-- Blanks are free of a separator that is none. -/
theorem Blank.separator_not_mem (hseparator : isBlank separator = false) (h : Blank cs) :
    separator ∉ cs := by
  intro hmem
  rw [h separator hmem] at hseparator
  cases hseparator

/-- Blanks at the ends of a text do no harm to its trimmed pieces. -/
theorem map_trim_splitOn_padded (hseparator : isBlank separator = false) (hbehind : Blank behind)
    (hpieces : ∀ piece ∈ pieces, separator ∉ piece) (hne : pieces ≠ []) (hbefore : Blank before) :
    (splitOn separator (before ++ ([separator].intercalate pieces ++ behind))).map trim
      = pieces.map trim := by
  induction pieces generalizing before with
  | nil => exact absurd rfl hne
  | cons piece more ih =>
    -- the blanks in front go with the first piece, so the rest is split with none in front of it
    have hpiece : separator ∉ before ++ piece := by
      rw [List.mem_append, not_or]
      exact ⟨hbefore.separator_not_mem hseparator, hpieces piece (List.mem_cons_self ..)⟩
    cases more with
    | nil =>
      have hwhole : separator ∉ before ++ piece ++ behind := by
        rw [List.mem_append, not_or]
        exact ⟨hpiece, hbehind.separator_not_mem hseparator⟩
      rw [List.intercalate_singleton, ← List.append_assoc, splitOn_eq,
        List.splitOn_eq_singleton hwhole, List.append_assoc, List.map_singleton, List.map_singleton,
        trim_append hbefore hbehind]
    | cons next rest =>
      have hmore := ih (fun p hp => hpieces p (List.mem_cons_of_mem _ hp)) (List.cons_ne_nil _ _)
        (List.forall_mem_nil _)
      have hfirst : trim (before ++ piece) = trim piece := by
        simpa using trim_append hbefore (List.forall_mem_nil _) piece
      rw [List.nil_append, splitOn_eq] at hmore
      rw [List.intercalate_cons_cons, splitOn_eq, List.append_assoc, List.append_assoc,
        ← List.append_assoc, List.singleton_append, List.splitOn_append_cons_self_of_not_mem hpiece,
        List.map_cons, hmore, hfirst]
      rfl

theorem map_trim_splitOn_trim (hseparator : isBlank separator = false) (cs : List Char) :
    (splitOn separator (trim cs)).map trim = (splitOn separator cs).map trim := by
  obtain ⟨before, behind, hbefore, hbehind, hcs⟩ := exists_trim cs
  have hpadded := map_trim_splitOn_padded hseparator hbehind
    (fun _ => separator_not_mem) (splitOn_ne_nil separator (trim cs)) hbefore
  rw [intercalate_splitOn, ← hcs] at hpadded
  exact hpadded.symm

end

end Text

end DeliveryGate
