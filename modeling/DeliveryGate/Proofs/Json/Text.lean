import DeliveryGate.Document.Doc
import DeliveryGate.Proofs.Json.Canonical
import DeliveryGate.Proofs.Json.Numerals

/-!
# Values and their texts

The text of a value is read back as this value, if no number in it is a double, every integer fits
64 bits and its brackets are not nested too deep, whatever blanks stand between its parts
(`Raw.parse?_write`): a text on one line and a text on several are two layouts of a value
(`Layout.write_dense`, `Layout.write_lines`). The reader takes just the text of a value from the
front of a longer text, so items and fields are read one after the other.
-/

namespace DeliveryGate

namespace Json

/-! ### Strings -/

theorem Raw.stringBody?_short {letter c : Char} (h : unescape? letter = some c)
    (rest : List Char) : stringBody? ('\\' :: letter :: rest)
      = (stringBody? rest).map fun (pieces, rest) => (.char c :: pieces, rest) := by
  rw [stringBody?]
  · rw [h]
    cases stringBody? rest <;> rfl
  · rintro _ _ _ _ _ rfl _
    cases h

theorem Raw.stringBody?_unit {n : Nat} {a b c d : Char}
    (h : Number.ofDigitsIn? 16 [a, b, c, d] = some n)
    (rest : List Char) : stringBody? ('\\' :: 'u' :: a :: b :: c :: d :: rest)
      = (stringBody? rest).map fun (pieces, rest) => (.unit n :: pieces, rest) := by
  rw [stringBody?, h]
  cases stringBody? rest <;> rfl

theorem Raw.stringBody?_plain {c : Char} (hquote : c ≠ '"') (hslash : c ≠ '\\')
    (hcontrol : ¬c.toNat < 32) (rest : List Char) : stringBody? (c :: rest)
      = (stringBody? rest).map fun (pieces, rest) => (.char c :: pieces, rest) := by
  rw [stringBody?, if_neg hcontrol]
  · cases stringBody? rest <;> rfl
  · exact fun h => hquote h
  · exact fun _ _ _ _ _ h _ => hslash h
  · exact fun _ _ h _ => hslash h

/-- A character of a string is read back from the way it is escaped. -/
theorem stringBody?_escape (c : Char) : ∃ piece, (∀ rest, Raw.stringBody? (escape c ++ rest)
      = (Raw.stringBody? rest).map fun (pieces, rest) => (piece :: pieces, rest)) ∧
    ∀ pieces, charsOfPieces? (piece :: pieces) = (charsOfPieces? pieces).map (c :: ·) := by
  unfold escape
  split
  · exact ⟨.char '"', Raw.stringBody?_short rfl, fun _ => rfl⟩
  · exact ⟨.char '\\', Raw.stringBody?_short rfl, fun _ => rfl⟩
  · exact ⟨.char '\n', Raw.stringBody?_short rfl, fun _ => rfl⟩
  · exact ⟨.char '\r', Raw.stringBody?_short rfl, fun _ => rfl⟩
  · exact ⟨.char '\t', Raw.stringBody?_short rfl, fun _ => rfl⟩
  · rename_i hquote hslash _ _ _
    split
    · rename_i hc
      obtain rfl : c = Char.ofNat 8 := by rw [← hc, Char.ofNat_toNat]
      exact ⟨.char (Char.ofNat 8), Raw.stringBody?_short rfl, fun _ => rfl⟩
    split
    · rename_i hc
      obtain rfl : c = Char.ofNat 12 := by rw [← hc, Char.ofNat_toNat]
      exact ⟨.char (Char.ofNat 12), Raw.stringBody?_short rfl, fun _ => rfl⟩
    split
    · rename_i hcontrol
      have hdigits : ∀ n < 32, Number.ofDigitsIn? 16
          ['0', '0', hexDigit (n / 16), hexDigit (n % 16)] = some n := by decide
      refine ⟨.unit c.toNat, Raw.stringBody?_unit (hdigits c.toNat hcontrol), fun pieces => ?_⟩
      have hbelow : (decide (c.toNat < 0xD800) || decide (0xDFFF < c.toNat)) = true := by
        simp only [Bool.or_eq_true, decide_eq_true_eq]
        omega
      rw [charsOfPieces?.eq_def]
      simp only [Char.ofNat_toNat]
      exact if_pos (by simpa using hbelow)
    · rename_i hcontrol
      exact ⟨.char c, Raw.stringBody?_plain hquote hslash hcontrol, fun _ => rfl⟩

/-- A string is read back from its text. -/
theorem stringBody?_renderString (s : String) : ∃ pieces,
    (∀ rest, Raw.stringBody? (s.toList.flatMap escape ++ '"' :: rest) = some (pieces, rest)) ∧
      charsOfPieces? pieces = some s.toList := by
  induction s.toList with
  | nil => exact ⟨[], fun _ => rfl, rfl⟩
  | cons c cs ih =>
    obtain ⟨pieces, hpieces, hchars⟩ := ih
    obtain ⟨piece, hpiece, hchar⟩ := stringBody?_escape c
    refine ⟨piece :: pieces, fun rest => ?_, ?_⟩
    · rw [List.flatMap_cons, List.append_assoc, hpiece, hpieces]
      rfl
    · rw [hchar, hchars]
      rfl

/-! ### Heads of texts -/

theorem Raw.skipSpace_cons {c : Char} (h : isSpace c = false) (rest : List Char) :
    skipSpace (c :: rest) = c :: rest := by
  rw [skipSpace, List.dropWhile_cons_of_neg (by simp [h])]

/-- The text of an integer starts with a sign or a digit. -/
theorem renderInt_head (n : Int) : ∃ c rest, renderInt n = c :: rest ∧
    (c = '-' ∨ c.isDigit = true) := by
  rw [renderInt]
  split
  · exact ⟨'-', _, rfl, Or.inl rfl⟩
  · obtain ⟨digit, digits, hdigits, hdigit⟩ := Binary64.exists_cons_decimalDigits n.natAbs
    exact ⟨digit, digits, hdigits, Or.inr hdigit⟩

section

variable {c : Char} (hc : c = '-' ∨ c.isDigit = true)

include hc

/-- What starts an integer is none of the other characters. -/
theorem ne_of_startsInt {d : Char} (hdigit : d.isDigit = false) (hsign : d ≠ '-') : c ≠ d := by
  rintro rfl
  rcases hc with h | h
  · exact hsign h
  · exact absurd h (by simp [hdigit])

theorem isSpace_of_startsInt : Raw.isSpace c = false := by
  simp [Raw.isSpace, ne_of_startsInt hc (d := ' ') rfl (by decide),
    ne_of_startsInt hc (d := '\t') rfl (by decide), ne_of_startsInt hc (d := '\n') rfl (by decide),
    ne_of_startsInt hc (d := '\r') rfl (by decide)]

end

/-- An integer is read from the front of a text. -/
theorem Raw.value?_renderInt (n : Int) (fuel : Nat) {rest : List Char} (hrest : Closes rest) :
    value? (fuel + 1) (renderInt n ++ rest) = some (.number (.ofInt n), rest) := by
  have hread := Numeral.read?_renderInt n hrest
  obtain ⟨c, digits, hdigits, hc⟩ := renderInt_head n
  rw [hdigits, List.cons_append] at hread ⊢
  rw [value?, skipSpace_cons (isSpace_of_startsInt hc)]
  split
  case h_7 => rw [hread]; rfl
  all_goals
    rename_i h
    exact absurd (List.cons.inj h).1 (ne_of_startsInt hc rfl (by decide))

/-- Whether a scalar is one that its text tells in full. -/
def legibleScalar (scalar : Json) : Bool := scalar.isProper && !scalar.isDouble

/-- Whether a value is one that its text tells in full: no double, and integers of 64 bits. -/
def legible (value : Json) : Bool := value.all legibleScalar fun _ => true

theorem legible_of_proper {value : Json} (h : value.proper = true)
    (hdouble : value.doubleFree = true) : value.legible = true :=
  (all_and value).trans (Bool.and_eq_true_iff.mpr ⟨h, hdouble⟩)

/-! ### Layouts -/

/-- Which blanks stand in the text of a value: in front of an item or closing bracket at a depth,
and behind a colon. -/
structure Layout where
  line : Nat → List Char
  gap : List Char
  line_blank : ∀ depth, ∀ c ∈ line depth, Raw.isSpace c = true
  gap_blank : ∀ c ∈ gap, Raw.isSpace c = true

namespace Layout

/-- No blanks at all. -/
def dense : Layout := ⟨fun _ => [], [], fun _ => List.forall_mem_nil _, List.forall_mem_nil _⟩

/-- A line for each item. -/
def lines : Layout where
  line := newLine
  gap := [' ']
  line_blank depth c hc := by
    rcases List.mem_cons.mp hc with rfl | hc
    · rfl
    · rw [List.eq_of_mem_replicate hc]
      rfl
  gap_blank c hc := by
    rw [List.mem_singleton.mp hc]
    rfl

variable (layout : Layout)

mutual

/-- The text of a value that starts at this depth. -/
def write (depth : Nat) : Json → List Char
  | .arr [] => ['[', ']']
  | .arr (item :: rest) =>
    '[' :: (layout.line (depth + 1) ++ (write (depth + 1) item ++ writeItems depth rest))
  | .obj [] => ['{', '}']
  | .obj ((key, value) :: rest) =>
    '{' :: (layout.line (depth + 1) ++ (renderString key ++ ':' ::
      (layout.gap ++ (write (depth + 1) value ++ writeFields depth rest))))
  | value => render value

/-- The items after the first, each behind a comma, and the closing bracket. -/
def writeItems (depth : Nat) : List Json → List Char
  | [] => layout.line depth ++ [']']
  | item :: rest =>
    ',' :: (layout.line (depth + 1) ++ (write (depth + 1) item ++ writeItems depth rest))

/-- The fields after the first, each behind a comma, and the closing brace. -/
def writeFields (depth : Nat) : List (String × Json) → List Char
  | [] => layout.line depth ++ ['}']
  | (key, value) :: rest =>
    ',' :: (layout.line (depth + 1) ++ (renderString key ++ ':' ::
      (layout.gap ++ (write (depth + 1) value ++ writeFields depth rest))))

end

mutual

theorem write_dense : ∀ (value : Json) (depth : Nat), dense.write depth value = render value
  | .arr [], _ | .obj [], _ => rfl
  | .arr (item :: rest), depth => by
    rw [write, render, write_dense item, writeItems_dense rest]
    rfl
  | .obj ((key, value) :: rest), depth => by
    rw [write, render, write_dense value, writeFields_dense rest]
    rfl
  | .null, _ | .bool _, _ | .int _, _ | .double _, _ | .str _, _ => rfl

theorem writeItems_dense : ∀ (items : List Json) (depth : Nat),
    dense.writeItems depth items = renderItems items
  | [], _ => rfl
  | item :: rest, depth => by
    rw [writeItems, renderItems, write_dense item, writeItems_dense rest]
    rfl

theorem writeFields_dense : ∀ (fields : List (String × Json)) (depth : Nat),
    dense.writeFields depth fields = renderFields fields
  | [], _ => rfl
  | (key, value) :: rest, depth => by
    rw [writeFields, renderFields, write_dense value, writeFields_dense rest]
    rfl

end

mutual

theorem write_lines : ∀ (value : Json) (depth : Nat),
    lines.write depth value = renderPretty depth value
  | .arr [], _ | .obj [], _ => rfl
  | .arr (item :: rest), depth => by
    rw [write, renderPretty, write_lines item, writeItems_lines rest, List.append_assoc]
    rfl
  | .obj ((key, value) :: rest), depth => by
    rw [write, renderPretty, write_lines value, writeFields_lines rest, List.append_assoc]
    rfl
  | .null, _ | .bool _, _ | .int _, _ | .double _, _ | .str _, _ => rfl

theorem writeItems_lines : ∀ (items : List Json) (depth : Nat),
    lines.writeItems depth items = renderPrettyItems depth items
  | [], _ => rfl
  | item :: rest, depth => by
    rw [writeItems, renderPrettyItems, write_lines item, writeItems_lines rest, List.append_assoc]
    rfl

theorem writeFields_lines : ∀ (fields : List (String × Json)) (depth : Nat),
    lines.writeFields depth fields = renderPrettyFields depth fields
  | [], _ => rfl
  | (key, value) :: rest, depth => by
    rw [writeFields, renderPrettyFields, write_lines value, writeFields_lines rest,
      List.append_assoc]
    rfl

end

end Layout

/-! ### Blanks -/

section

variable {blanks : List Char} (hblanks : ∀ c ∈ blanks, Raw.isSpace c = true)

include hblanks

theorem Raw.skipSpace_append (rest : List Char) : skipSpace (blanks ++ rest) = skipSpace rest := by
  rw [skipSpace, skipSpace, List.dropWhile_append_of_pos hblanks]

theorem Raw.value?_append (fuel : Nat) (rest : List Char) :
    value? fuel (blanks ++ rest) = value? fuel rest := by
  cases fuel with
  | zero => rfl
  | succ fuel => rw [value?, value?, skipSpace_append hblanks]

theorem Raw.field?_append (fuel : Nat) (rest : List Char) :
    field? fuel (blanks ++ rest) = field? fuel rest := by
  cases fuel with
  | zero => rfl
  | succ fuel => rw [field?, field?, skipSpace_append hblanks]

/-- No numeral goes on behind a value, where blanks may come in front of a bracket. -/
theorem closes_bracket {c : Char} (hc : c = ']' ∨ c = '}') (rest : List Char) :
    Closes (blanks ++ c :: rest) := by
  cases blanks with
  | nil =>
    rintro _ ⟨⟩
    rcases hc with rfl | rfl <;> decide
  | cons blank blanks =>
    rintro _ ⟨⟩
    have hblank := hblanks blank (List.mem_cons_self ..)
    simp only [Raw.isSpace, Bool.or_eq_true, beq_iff_eq] at hblank
    rcases hblank with ((rfl | rfl) | rfl) | rfl <;> decide

end

theorem closes_comma (rest : List Char) : Closes (',' :: rest) := by
  rintro _ ⟨⟩
  decide

/-! ### Values -/

/-- This is what is read where the text of a value stands, and it makes the same document as the
value where brackets may be nested so deep. -/
structure Raw.Spells (raw : Raw) (text : List Char) (value : Json) : Prop where
  /-- The text starts with something else than a blank or a closing bracket. -/
  head : ∃ c rest, text = c :: rest ∧ isSpace c = false ∧ c ≠ ']'
  value? : ∀ fuel rest, text.length ≤ fuel → Closes rest →
    Raw.value? fuel (text ++ rest) = some (raw, rest)
  ofRaw : ∀ depth, value.nesting ≤ depth → Doc.ofRaw depth raw = Doc.ofJson value

/-- The same for the items after the first, up to the closing bracket. -/
structure Raw.SpellsItems (raws : List Raw) (text : List Char) (items : List Json) : Prop where
  closes : ∀ rest, Closes (text ++ rest)
  items? : ∀ fuel rest, text.length ≤ fuel → Raw.items? fuel (text ++ rest) = some (raws, rest)
  ofRawItems : ∀ depth, nestingItems items ≤ depth →
    Doc.ofRawItems depth raws = Doc.ofJsonItems items

/-- The same for the fields after the first, up to the closing brace. -/
structure Raw.SpellsFields (raws : List (List Piece × Raw)) (text : List Char)
    (fields : List (String × Json)) : Prop where
  closes : ∀ rest, Closes (text ++ rest)
  fields? : ∀ fuel rest, text.length ≤ fuel → Raw.fields? fuel (text ++ rest) = some (raws, rest)
  ofRawFields : ∀ depth, nestingFields fields ≤ depth →
    Doc.ofRawFields depth raws = Doc.ofJsonFields fields

/-- The same for one field. -/
structure Raw.SpellsField (raw : List Piece × Raw) (text : List Char) (key : String)
    (value : Json) : Prop where
  head : ∃ rest, text = '"' :: rest
  field? : ∀ fuel rest, text.length ≤ fuel → Closes rest →
    Raw.field? fuel (text ++ rest) = some (raw, rest)
  ofPieces : Doc.ofPieces raw.1 = .scalar (.str key)
  ofRaw : ∀ depth, value.nesting ≤ depth → Doc.ofRaw depth raw.2 = Doc.ofJson value

namespace Raw

/-- Some fuel is there where a text has to be read. -/
theorem exists_fuel {fuel : Nat} {c : Char} {cs : List Char} (h : (c :: cs).length ≤ fuel) :
    ∃ less, fuel = less + 1 ∧ cs.length ≤ less := by
  cases fuel with
  | zero => cases h
  | succ less => exact ⟨less, rfl, Nat.le_of_succ_le_succ h⟩

section

variable {raw : Raw} {raws : List Raw} {first : List Piece × Raw} {more : List (List Piece × Raw)}
  {text texts blanks : List Char} {key : String} {value : Json} {items : List Json}
  {fields : List (String × Json)} (hblanks : ∀ c ∈ blanks, isSpace c = true)

include hblanks

theorem Spells.field (h : raw.Spells text value) (key : String) :
    ∃ pieces, SpellsField (pieces, raw) (renderString key ++ ':' :: (blanks ++ text)) key
      value := by
  obtain ⟨pieces, hpieces, hchars⟩ := stringBody?_renderString key
  refine ⟨pieces, ⟨_, rfl⟩, fun fuel rest hfuel hrest => ?_, ?_, h.ofRaw⟩
  · obtain ⟨less, rfl, hless⟩ := exists_fuel hfuel
    have hlength : text.length ≤ less := by
      simp only [List.append_eq, List.length_append, List.length_cons] at hless
      omega
    have hvalue := h.value? less rest hlength hrest
    rw [renderString, List.cons_append, List.cons_append, List.append_assoc, List.append_assoc,
      field?, skipSpace_cons (by decide)]
    simp only [List.cons_append, List.nil_append, hpieces, Option.bind_eq_bind, Option.bind_some]
    rw [skipSpace_cons (by decide)]
    simp only [List.append_assoc, value?_append hblanks, hvalue, Option.bind_some]
  · rw [Doc.ofPieces, hchars]
    simp

theorem spellsItems_nil : SpellsItems [] (blanks ++ [']']) [] where
  closes rest := by
    rw [List.append_assoc]
    exact closes_bracket hblanks (Or.inl rfl) rest
  items? fuel rest hfuel := by
    cases fuel with
    | zero => simp at hfuel
    | succ fuel =>
      rw [List.append_assoc, Raw.items?, skipSpace_append hblanks]
      rfl
  ofRawItems _ _ := rfl

theorem spellsFields_nil : SpellsFields [] (blanks ++ ['}']) [] where
  closes rest := by
    rw [List.append_assoc]
    exact closes_bracket hblanks (Or.inr rfl) rest
  fields? fuel rest hfuel := by
    cases fuel with
    | zero => simp at hfuel
    | succ fuel =>
      rw [List.append_assoc, Raw.fields?, skipSpace_append hblanks]
      rfl
  ofRawFields _ _ := rfl

theorem Spells.cons (h : raw.Spells text value) (hs : SpellsItems raws texts items) :
    SpellsItems (raw :: raws) (',' :: (blanks ++ (text ++ texts))) (value :: items) where
  closes rest := closes_comma _
  items? fuel rest hfuel := by
    obtain ⟨less, rfl, hless⟩ := exists_fuel hfuel
    simp only [List.length_append] at hless
    rw [List.cons_append, Raw.items?, skipSpace_cons (by decide)]
    simp only [List.append_assoc, value?_append hblanks,
      h.value? less _ (by omega) (hs.closes rest), hs.items? less rest (by omega),
      Option.bind_eq_bind, Option.bind_some]
  ofRawItems depth hdepth := by
    rw [nestingItems, Nat.max_le] at hdepth
    rw [Doc.ofRawItems, Doc.ofJsonItems, h.ofRaw depth hdepth.1, hs.ofRawItems depth hdepth.2]

theorem Spells.array (h : raw.Spells text value) (hs : SpellsItems raws texts items) :
    (Raw.array (raw :: raws)).Spells ('[' :: (blanks ++ (text ++ texts))) (.arr (value :: items))
    where
  head := ⟨_, _, rfl, by decide, by decide⟩
  value? fuel rest hfuel _ := by
    obtain ⟨less, rfl, hless⟩ := exists_fuel hfuel
    simp only [List.length_append] at hless
    have hfirst := h.value? less (texts ++ rest) (by omega) (hs.closes rest)
    obtain ⟨c, cs, rfl, hspace, hbracket⟩ := h.head
    rw [List.cons_append, Raw.value?, skipSpace_cons (by decide)]
    simp only [List.append_assoc, skipSpace_append hblanks]
    rw [List.cons_append] at hfirst ⊢
    simp only [skipSpace_cons hspace]
    split
    · rename_i heq
      exact absurd (List.cons.inj heq).1 hbracket
    · simp only [hfirst, hs.items? less rest (by omega), Option.bind_eq_bind, Option.bind_some]
  ofRaw depth hdepth := by
    cases depth with
    | zero => cases hdepth
    | succ depth =>
      rw [Doc.ofRaw, Doc.ofJson,
        (h.cons hblanks hs).ofRawItems depth (Nat.le_of_succ_le_succ hdepth)]

theorem SpellsField.cons (h : SpellsField first text key value)
    (hs : SpellsFields more texts fields) : SpellsFields (first :: more)
      (',' :: (blanks ++ (text ++ texts))) ((key, value) :: fields) where
  closes rest := closes_comma _
  fields? fuel rest hfuel := by
    obtain ⟨less, rfl, hless⟩ := exists_fuel hfuel
    simp only [List.length_append] at hless
    rw [List.cons_append, Raw.fields?, skipSpace_cons (by decide)]
    simp only [List.append_assoc, field?_append hblanks,
      h.field? less _ (by omega) (hs.closes rest), hs.fields? less rest (by omega),
      Option.bind_eq_bind, Option.bind_some]
  ofRawFields depth hdepth := by
    rw [nestingFields, Nat.max_le] at hdepth
    obtain ⟨pieces, raw⟩ := first
    rw [Doc.ofRawFields, Doc.ofJsonFields, h.ofPieces, h.ofRaw depth hdepth.1,
      hs.ofRawFields depth hdepth.2]

theorem SpellsField.object (h : SpellsField first text key value)
    (hs : SpellsFields more texts fields) :
    (Raw.object (first :: more)).Spells ('{' :: (blanks ++ (text ++ texts)))
      (.obj ((key, value) :: fields)) where
  head := ⟨_, _, rfl, by decide, by decide⟩
  value? fuel rest hfuel _ := by
    obtain ⟨less, rfl, hless⟩ := exists_fuel hfuel
    simp only [List.length_append] at hless
    have hfirst := h.field? less (texts ++ rest) (by omega) (hs.closes rest)
    obtain ⟨cs, rfl⟩ := h.head
    rw [List.cons_append, Raw.value?, skipSpace_cons (by decide)]
    simp only [List.append_assoc, skipSpace_append hblanks]
    rw [List.cons_append] at hfirst ⊢
    simp only [skipSpace_cons (by decide : isSpace '"' = false)]
    split
    · rename_i heq
      cases heq
    · simp only [hfirst, hs.fields? less rest (by omega), Option.bind_eq_bind, Option.bind_some]
  ofRaw depth hdepth := by
    cases depth with
    | zero => cases hdepth
    | succ depth =>
      rw [Doc.ofRaw, Doc.ofJson,
        (h.cons hblanks hs).ofRawFields depth (Nat.le_of_succ_le_succ hdepth)]

end

end Raw

section

variable (layout : Layout)

mutual

/-- A value is read back from its text. -/
theorem exists_spells : ∀ (value : Json) (depth : Nat), value.legible = true →
    ∃ raw : Raw, raw.Spells (layout.write depth value) value
  | .null, _, _ => by
    refine ⟨.null, ⟨_, _, rfl, by decide, by decide⟩, fun fuel rest hfuel _ => ?_, fun _ _ => rfl⟩
    obtain ⟨less, rfl, -⟩ := Raw.exists_fuel hfuel
    rfl
  | .bool b, _, _ => by
    refine ⟨.bool b, ?_, fun fuel rest hfuel _ => ?_, fun _ _ => rfl⟩
    · cases b <;> exact ⟨_, _, rfl, by decide, by decide⟩
    · cases b <;> obtain ⟨less, rfl, -⟩ := Raw.exists_fuel hfuel <;> rfl
  | .int n, _, h => by
    have hword : isWord n = true := (Bool.and_eq_true_iff.mp h).1
    obtain ⟨c, digits, hdigits, hc⟩ := renderInt_head n
    refine ⟨.number (.ofInt n), ⟨c, digits, hdigits, isSpace_of_startsInt hc,
      ne_of_startsInt hc rfl (by decide)⟩, fun fuel rest hfuel hrest => ?_, fun depth _ => ?_⟩
    · change (renderInt n).length ≤ fuel at hfuel
      rw [hdigits] at hfuel
      obtain ⟨less, rfl, -⟩ := Raw.exists_fuel hfuel
      exact Raw.value?_renderInt n less hrest
    · rw [Doc.ofRaw, Doc.ofNumeral, Numeral.value?_ofInt hword]
  | .double _, _, h => by simp [legible, all, legibleScalar, isDouble] at h
  | .str s, _, _ => by
    obtain ⟨pieces, hpieces, hchars⟩ := stringBody?_renderString s
    refine ⟨.string pieces, ⟨_, _, rfl, by decide, by decide⟩, fun fuel rest hfuel _ => ?_,
      fun _ _ => ?_⟩
    · obtain ⟨less, rfl, -⟩ := Raw.exists_fuel hfuel
      change Raw.value? (less + 1) (renderString s ++ rest) = _
      rw [renderString, List.cons_append, List.append_assoc, Raw.value?,
        Raw.skipSpace_cons (by decide)]
      simp only [List.cons_append, List.nil_append, hpieces, Option.map_some]
    · rw [Doc.ofRaw, Doc.ofPieces, hchars, Doc.ofJson]
      simp
  | .arr [], _, _ => by
    refine ⟨.array [], ⟨_, _, rfl, by decide, by decide⟩, fun fuel rest hfuel _ => ?_,
      fun depth hdepth => ?_⟩
    · obtain ⟨less, rfl, -⟩ := Raw.exists_fuel hfuel
      rfl
    · cases depth with
      | zero => cases hdepth
      | succ depth => rfl
  | .arr (item :: items), depth, h => by
    rw [legible, all, allItems, Bool.and_eq_true] at h
    obtain ⟨raw, hraw⟩ := exists_spells item (depth + 1) h.1
    obtain ⟨raws, hraws⟩ := exists_spellsItems items depth h.2
    exact ⟨.array (raw :: raws), hraw.array (layout.line_blank _) hraws⟩
  | .obj [], _, _ => by
    refine ⟨.object [], ⟨_, _, rfl, by decide, by decide⟩, fun fuel rest hfuel _ => ?_,
      fun depth hdepth => ?_⟩
    · obtain ⟨less, rfl, -⟩ := Raw.exists_fuel hfuel
      rfl
    · cases depth with
      | zero => cases hdepth
      | succ depth => rfl
  | .obj ((key, value) :: fields), depth, h => by
    rw [legible, all, allFields, Bool.true_and, Bool.and_eq_true] at h
    obtain ⟨raw, hraw⟩ := exists_spells value (depth + 1) h.1
    obtain ⟨pieces, hfield⟩ := hraw.field layout.gap_blank key
    obtain ⟨raws, hraws⟩ := exists_spellsFields fields depth h.2
    refine ⟨.object ((pieces, raw) :: raws), ?_⟩
    simpa [Layout.write] using hfield.object (layout.line_blank (depth + 1)) hraws

theorem exists_spellsItems : ∀ (items : List Json) (depth : Nat),
    allItems legibleScalar (fun _ => true) items = true →
      ∃ raws, Raw.SpellsItems raws (layout.writeItems depth items) items
  | [], depth, _ => ⟨[], Raw.spellsItems_nil (layout.line_blank depth)⟩
  | item :: rest, depth, h => by
    rw [allItems, Bool.and_eq_true] at h
    obtain ⟨raw, hraw⟩ := exists_spells item (depth + 1) h.1
    obtain ⟨raws, hraws⟩ := exists_spellsItems rest depth h.2
    exact ⟨raw :: raws, hraw.cons (layout.line_blank _) hraws⟩

theorem exists_spellsFields : ∀ (fields : List (String × Json)) (depth : Nat),
    allFields legibleScalar (fun _ => true) fields = true →
      ∃ raws, Raw.SpellsFields raws (layout.writeFields depth fields) fields
  | [], depth, _ => ⟨[], Raw.spellsFields_nil (layout.line_blank depth)⟩
  | (key, value) :: rest, depth, h => by
    rw [allFields, Bool.and_eq_true] at h
    obtain ⟨raw, hraw⟩ := exists_spells value (depth + 1) h.1
    obtain ⟨pieces, hfield⟩ := hraw.field layout.gap_blank key
    obtain ⟨raws, hraws⟩ := exists_spellsFields rest depth h.2
    refine ⟨(pieces, raw) :: raws, ?_⟩
    simpa [Layout.writeFields] using hfield.cons (layout.line_blank (depth + 1)) hraws

end

/-- The whole text of a value is read as the document of this value, unless its brackets are nested
too deep. -/
theorem Raw.parse?_write {value : Json} (h : value.legible = true)
    (hnesting : value.nesting ≤ deepest) :
    ∃ raw, parse? (String.ofList (layout.write 0 value)) = some raw ∧
      raw.toDoc = Doc.ofJson value := by
  obtain ⟨raw, hraw⟩ := exists_spells layout value 0 h
  have hwhole := hraw.value? (2 * (layout.write 0 value).length + 2) [] (by omega)
    fun c hc => absurd hc (by simp)
  rw [List.append_nil] at hwhole
  refine ⟨raw, ?_, hraw.ofRaw deepest hnesting⟩
  rw [parse?, String.toList_ofList]
  simp only [hwhole]
  rfl

end

end Json

end DeliveryGate
