import DeliveryGate.Proofs.Number.Digits
import DeliveryGate.Proofs.Search.Match
import DeliveryGate.Proofs.Text.Pieces
import DeliveryGate.Settings

/-!
# What settings may be set to

A number is set by a numeral of 64 bits, a header by any text that is not blank, in both cases with
blanks around it. If each variable that is set has such a value, the settings are read, each of them
from its own variable alone; if not, the fault that is reported begins with the name of the first
variable that has none (`Settings.ofLookup_grammar`).
-/

namespace DeliveryGate

namespace Settings

/-! ### Values -/

/-- The text of a number of 64 bits that is not below `least`, with blanks around it. -/
structure Numeral (least : Nat) (raw : String) (n : Nat) : Prop where
  denotes : Number.Denotes (Text.trim raw.toList) n
  least_le : least ≤ n
  lt_bound : n < 0x10000000000000000

/-- The name of a header, with blanks around it. -/
structure HeaderText (raw header : String) : Prop where
  not_blank : ¬Text.Blank raw.toList
  eq_trim : header = String.ofList (Text.trim raw.toList)

/-! ### Variables -/

/-- A variable that gives a setting. -/
inductive Variable where
  | timeout
  | header
  | ttl
  | capacity

namespace Variable

/-- The variables in the order in which they are checked. -/
def all : List Variable := [timeout, header, ttl, capacity]

def name : Variable → String
  | timeout => "STEPFILTER_WEBHOOK_TIMEOUT_MS"
  | header => "STEPFILTER_SIGNATURE_HEADER"
  | ttl => "STEPFILTER_SUBSCRIBER_CACHE_TTL_MS"
  | capacity => "STEPFILTER_SUBSCRIBER_CACHE_CAPACITY"

/-- What a variable may be set to. -/
def Admits : Variable → String → Prop
  | timeout, raw => ∃ n, Numeral 1 raw n
  | header, raw => ¬Text.Blank raw.toList
  | ttl, raw => ∃ n, Numeral 0 raw n
  | capacity, raw => ∃ n, Numeral 1 raw n

/-- A variable is set, and to something that it may not be set to. -/
def Faulty (lookup : String → Option String) (v : Variable) : Prop :=
  ∃ raw, lookup v.name = some raw ∧ ¬v.Admits raw

/-- A failure of the configuration whose text begins with the name of a variable. -/
def Blamed (v : Variable) (failure : Failure) : Prop :=
  ∃ rest, failure = .config (v.name ++ rest)

end Variable

/-- The value of a variable is read; where it is not set, the default stands for it. -/
def Given {α : Type} (reads : String → α → Prop) (default : α) : Option String → α → Prop
  | none, value => value = default
  | some raw, value => reads raw value

/-- Each setting is read from its variable. -/
structure ReadFrom (lookup : String → Option String) (settings : Settings) : Prop where
  timeout : Given (Numeral 1) 5000 (lookup (Variable.name .timeout)) settings.webhookTimeoutMs
  header : Given HeaderText "nv-hmac-256" (lookup (Variable.name .header)) settings.signatureHeader
  ttl : Given (Numeral 0) 30000 (lookup (Variable.name .ttl)) settings.cacheTtlMs
  capacity : Given (Numeral 1) 10000 (lookup (Variable.name .capacity)) settings.cacheCapacity

namespace Variable

/-- A variable is read as `reads` says, and blamed for everything else. -/
structure IsReadBy {α : Type} (v : Variable) (read : String → Except Failure α)
    (reads : String → α → Prop) : Prop where
  admits_iff : ∀ raw, v.Admits raw ↔ ∃ value, reads raw value
  ok_iff : ∀ raw value, read raw = .ok value ↔ reads raw value
  blamed : ∀ raw failure, read raw = .error failure → v.Blamed failure

section

variable {α : Type} {v : Variable} {read : String → Except Failure α} {reads : String → α → Prop}
  {default value : α} {lookup : String → Option String} {failure : Failure}

theorem IsReadBy.ok_iff_given (h : v.IsReadBy read reads) :
    orDefault default read (lookup v.name) = .ok value ↔
      Given reads default (lookup v.name) value := by
  cases lookup v.name with
  | none =>
    exact ⟨fun hok => (Except.ok.inj hok).symm, fun hvalue => congrArg Except.ok hvalue.symm⟩
  | some raw => exact h.ok_iff raw value

theorem IsReadBy.admits (h : v.IsReadBy read reads)
    (hgiven : Given reads default (lookup v.name) value) {raw : String}
    (hraw : lookup v.name = some raw) : v.Admits raw := by
  rw [hraw] at hgiven
  exact (h.admits_iff raw).mpr ⟨value, hgiven⟩

theorem IsReadBy.not_faulty (h : v.IsReadBy read reads)
    (hok : orDefault default read (lookup v.name) = .ok value) : ¬v.Faulty lookup :=
  fun ⟨_, hraw, hrefused⟩ => hrefused (h.admits (h.ok_iff_given.mp hok) hraw)

theorem IsReadBy.faulty (h : v.IsReadBy read reads)
    (herror : orDefault default read (lookup v.name) = .error failure) :
    v.Faulty lookup ∧ v.Blamed failure := by
  cases hraw : lookup v.name with
  | none =>
    rw [hraw] at herror
    cases herror
  | some raw =>
    rw [hraw] at herror
    refine ⟨⟨raw, hraw, fun hadmits => ?_⟩, h.blamed raw failure herror⟩
    obtain ⟨value, hvalue⟩ := (h.admits_iff raw).mp hadmits
    cases herror.symm.trans ((h.ok_iff raw value).mpr hvalue)

/-- A variable that is not read is the first faulty one if those before it were read. -/
theorem IsReadBy.isFirst (h : v.IsReadBy read reads)
    (herror : orDefault default read (lookup v.name) = .error failure) (before : List Variable)
    {after : List Variable} (hall : all = before ++ v :: after)
    (hbefore : ∀ other ∈ before, ¬Faulty lookup other) :
    IsFirst (Faulty lookup) all v ∧ v.Blamed failure := by
  obtain ⟨hfaulty, hblamed⟩ := h.faulty herror
  exact ⟨⟨hfaulty, before, after, hall, hbefore⟩, hblamed⟩

end

end Variable

/-! ### Reading the variables -/

theorem numeral?_eq_some_iff {raw : String} {n : Nat} :
    numeral? raw = some n ↔ Numeral 0 raw n := by
  rw [numeral?, Number.unsigned?_eq_some_iff]
  exact ⟨fun h => ⟨h.1, n.zero_le, h.2⟩, fun h => ⟨h.denotes, h.lt_bound⟩⟩

theorem numeral_one_iff {raw : String} {n : Nat} : Numeral 1 raw n ↔ Numeral 0 raw n ∧ n ≠ 0 :=
  ⟨fun h => ⟨⟨h.denotes, n.zero_le, h.lt_bound⟩, Nat.pos_iff_ne_zero.mp h.least_le⟩,
    fun ⟨h, hpos⟩ => ⟨h.denotes, Nat.pos_iff_ne_zero.mpr hpos, h.lt_bound⟩⟩

/-- Both numbers that must not be zero are read in this way, but for what is said of a text that is
no numeral. -/
theorem isReadBy_positive {v : Variable} {read : String → Except Failure Nat}
    (complaint : String → String) (hadmits : ∀ raw, v.Admits raw ↔ ∃ n, Numeral 1 raw n)
    (hread : ∀ raw, read raw = match numeral? raw with
      | some n => positive v.name n
      | none => .error (.config (v.name ++ complaint raw))) : v.IsReadBy read (Numeral 1) where
  admits_iff := hadmits
  ok_iff raw n := by
    rw [hread, numeral_one_iff, ← numeral?_eq_some_iff]
    cases numeral? raw with
    | none => exact ⟨fun h => (nomatch h), fun h => (nomatch h.1)⟩
    | some m =>
      by_cases hm : m = 0
      · simp only [positive, if_pos hm]
        exact ⟨fun h => (nomatch h), fun h => absurd (Option.some.inj h.1 ▸ hm) h.2⟩
      · simp only [positive, if_neg hm]
        exact ⟨fun h => Except.ok.inj h ▸ ⟨rfl, hm⟩, fun h => congrArg _ (Option.some.inj h.1)⟩
  blamed raw failure h := by
    rw [hread] at h
    cases hn : numeral? raw with
    | none =>
      rw [hn] at h
      exact ⟨_, (Except.error.inj h).symm⟩
    | some m =>
      simp only [hn, positive] at h
      split at h
      · exact ⟨_, (Except.error.inj h).symm⟩
      · cases h

theorem timeout_isReadBy : Variable.timeout.IsReadBy timeoutOf (Numeral 1) := by
  refine isReadBy_positive (fun raw => " must be a number of milliseconds, got '" ++ raw ++ "'")
    (fun _ => Iff.rfl) fun raw => ?_
  rw [timeoutOf, millis]
  cases numeral? raw with
  | none =>
    simp only [Except.bind, String.append_assoc]
    rfl
  | some n => rfl

theorem capacity_isReadBy : Variable.capacity.IsReadBy capacityOf (Numeral 1) := by
  refine isReadBy_positive (fun raw => " must be a positive integer, got '" ++ raw ++ "'")
    (fun _ => Iff.rfl) fun raw => ?_
  rw [capacityOf]
  cases numeral? raw with
  | none =>
    simp only [String.append_assoc]
    rfl
  | some n => rfl

theorem ttl_isReadBy : Variable.ttl.IsReadBy ttlOf (Numeral 0) where
  admits_iff _ := Iff.rfl
  ok_iff raw n := by
    rw [ttlOf, millis, ← numeral?_eq_some_iff]
    cases numeral? raw with
    | none => exact ⟨fun h => (nomatch h), fun h => (nomatch h)⟩
    | some m => exact ⟨fun h => congrArg some (Except.ok.inj h),
        fun h => congrArg Except.ok (Option.some.inj h)⟩
  blamed raw failure h := by
    rw [ttlOf, millis] at h
    split at h
    · cases h
    · refine ⟨" must be a number of milliseconds, got '" ++ raw ++ "'", ?_⟩
      rw [← Except.error.inj h, String.append_assoc, String.append_assoc, String.append_assoc]
      rfl

theorem header_isReadBy : Variable.header.IsReadBy headerOf HeaderText where
  admits_iff raw := ⟨fun h => ⟨_, h, rfl⟩, fun ⟨_, h⟩ => h.not_blank⟩
  ok_iff raw header := by
    simp only [headerOf, List.isEmpty_iff, Text.trim_eq_nil_iff]
    split
    · rename_i hblank
      exact ⟨fun h => (nomatch h), fun h => absurd hblank h.not_blank⟩
    · rename_i hblank
      exact ⟨fun h => ⟨hblank, (Except.ok.inj h).symm⟩, fun h => congrArg Except.ok h.eq_trim.symm⟩
  blamed raw failure h := by
    simp only [headerOf] at h
    split at h
    · exact ⟨_, (Except.error.inj h).symm⟩
    · cases h

/-! ### All settings -/

section

theorem bind_eq_ok_iff {α β : Type} {x : Except Failure α} {f : α → Except Failure β} {b : β} :
    (x >>= f) = .ok b ↔ ∃ a, x = .ok a ∧ f a = .ok b := by
  cases x with
  | error failure => exact ⟨fun h => (nomatch h), fun ⟨_, h, _⟩ => (nomatch h)⟩
  | ok a => exact ⟨fun h => ⟨a, rfl, h⟩, fun ⟨_, ha, h⟩ => Except.ok.inj ha ▸ h⟩

theorem bind_eq_error_iff {α β : Type} {x : Except Failure α} {f : α → Except Failure β}
    {failure : Failure} :
    (x >>= f) = .error failure ↔ x = .error failure ∨ ∃ a, x = .ok a ∧ f a = .error failure := by
  cases x with
  | error other =>
    have hbind : (.error other >>= f) = (.error other : Except Failure β) := rfl
    simp [hbind]
  | ok a =>
    have hbind : (.ok a >>= f) = f a := rfl
    simp [hbind]

variable {lookup : String → Option String} {settings : Settings} {failure : Failure}

theorem ofLookup_eq_ok_iff : ofLookup lookup = .ok settings ↔ settings.ReadFrom lookup := by
  constructor
  · intro h
    rw [ofLookup] at h
    obtain ⟨timeout, htimeout, h⟩ := bind_eq_ok_iff.mp h
    obtain ⟨header, hheader, h⟩ := bind_eq_ok_iff.mp h
    obtain ⟨ttl, httl, h⟩ := bind_eq_ok_iff.mp h
    obtain ⟨capacity, hcapacity, h⟩ := bind_eq_ok_iff.mp h
    cases h
    exact ⟨timeout_isReadBy.ok_iff_given.mp htimeout, header_isReadBy.ok_iff_given.mp hheader,
      ttl_isReadBy.ok_iff_given.mp httl, capacity_isReadBy.ok_iff_given.mp hcapacity⟩
  · intro h
    exact bind_eq_ok_iff.mpr ⟨_, timeout_isReadBy.ok_iff_given.mpr h.timeout,
      bind_eq_ok_iff.mpr ⟨_, header_isReadBy.ok_iff_given.mpr h.header,
        bind_eq_ok_iff.mpr ⟨_, ttl_isReadBy.ok_iff_given.mpr h.ttl,
          bind_eq_ok_iff.mpr ⟨_, capacity_isReadBy.ok_iff_given.mpr h.capacity, rfl⟩⟩⟩⟩

theorem ReadFrom.admits (h : settings.ReadFrom lookup) (v : Variable) {raw : String}
    (hraw : lookup v.name = some raw) : v.Admits raw := by
  cases v with
  | timeout => exact timeout_isReadBy.admits h.timeout hraw
  | header => exact header_isReadBy.admits h.header hraw
  | ttl => exact ttl_isReadBy.admits h.ttl hraw
  | capacity => exact capacity_isReadBy.admits h.capacity hraw

/-- A variable is read only after all before it were, so the first faulty one is blamed. -/
theorem isFirst_of_ofLookup_eq_error (h : ofLookup lookup = .error failure) :
    ∃ v, IsFirst (Variable.Faulty lookup) Variable.all v ∧ v.Blamed failure := by
  rw [ofLookup] at h
  rcases bind_eq_error_iff.mp h with herror | ⟨timeout, htimeout, h⟩
  · exact ⟨.timeout, timeout_isReadBy.isFirst herror [] rfl (List.forall_mem_nil _)⟩
  have hfirst := timeout_isReadBy.not_faulty htimeout
  rcases bind_eq_error_iff.mp h with herror | ⟨header, hheader, h⟩
  · exact ⟨.header, header_isReadBy.isFirst herror [.timeout] rfl (by simpa using hfirst)⟩
  have hsecond := header_isReadBy.not_faulty hheader
  rcases bind_eq_error_iff.mp h with herror | ⟨ttl, httl, h⟩
  · exact ⟨.ttl, ttl_isReadBy.isFirst herror [.timeout, .header] rfl (by simp [hfirst, hsecond])⟩
  have hthird := ttl_isReadBy.not_faulty httl
  rcases bind_eq_error_iff.mp h with herror | ⟨capacity, -, h⟩
  · exact ⟨.capacity, capacity_isReadBy.isFirst herror [.timeout, .header, .ttl] rfl
      (by simp [hfirst, hsecond, hthird])⟩
  · cases h

end

/-- Settings are read exactly if no variable is set to something that it may not be set to; then
each is read from its own variable, or is the default where this is not set. Otherwise the text of
the failure begins with the name of the first variable that is set to something else. -/
theorem ofLookup_grammar (lookup : String → Option String) :
    ((∃ settings, ofLookup lookup = .ok settings) ↔
      ∀ v raw, lookup (Variable.name v) = some raw → v.Admits raw) ∧
    (∀ settings, ofLookup lookup = .ok settings ↔ settings.ReadFrom lookup) ∧
    (∀ failure, ofLookup lookup = .error failure →
      ∃ v, IsFirst (Variable.Faulty lookup) Variable.all v ∧ v.Blamed failure) := by
  refine ⟨⟨fun ⟨settings, hok⟩ v raw hraw => ?_, fun hadmits => ?_⟩, fun _ => ofLookup_eq_ok_iff,
    fun failure => isFirst_of_ofLookup_eq_error⟩
  · exact (ofLookup_eq_ok_iff.mp hok).admits v hraw
  · cases hread : ofLookup lookup with
    | ok settings => exact ⟨settings, rfl⟩
    | error failure =>
      obtain ⟨v, ⟨⟨raw, hraw, hrefused⟩, -⟩, -⟩ := isFirst_of_ofLookup_eq_error hread
      exact absurd (hadmits v raw hraw) hrefused

/-- Without any variables the settings are the defaults. -/
example : ofLookup (fun _ => none) = .ok {} := rfl

/-- Signs, zeros and blanks in numerals, and a header between blanks. -/
def padded : String → Option String := fun name =>
  [(timeoutName, "\u2003+0001500\n"), (headerName, " x signature\t"), (ttlName, "0")].lookup name

/-- A header of blanks, a number that is one too large, and a sign that numerals do not have. -/
def mistaken : String → Option String := fun name =>
  [(timeoutName, "18446744073709551615"), (headerName, "\u0085 "),
    (ttlName, "18446744073709551616"), (capacityName, "-1")].lookup name

theorem ofLookup_grammar_padded :
    (∀ v raw, padded (Variable.name v) = some raw → v.Admits raw) ∧
      ofLookup padded = .ok ⟨1500, "x signature", 0, 10000⟩ ∧
      ofLookup mistaken = .error (.config (headerName ++ " must not be empty")) ∧
      ∃ v, IsFirst (Variable.Faulty mistaken) Variable.all v ∧
        v.Blamed (.config (headerName ++ " must not be empty")) := by
  obtain ⟨hadmits, hread, -⟩ := ofLookup_grammar padded
  have hspells : Number.Spells ['0', '0', '0', '1', '5', '0', '0'] 1500 :=
    ⟨by decide, List.all_eq_true.mp rfl, rfl⟩
  have hsettings : ReadFrom padded ⟨1500, "x signature", 0, 10000⟩ :=
    { timeout := ⟨⟨_, Or.inr rfl, hspells⟩, by decide, by decide⟩
      header := ⟨by decide, rfl⟩
      ttl := ⟨⟨_, Or.inl rfl, Number.spells_decimalDigits 0⟩, by decide, by decide⟩
      capacity := rfl }
  have hok := (hread _).mpr hsettings
  have herror : ofLookup mistaken = .error (.config (headerName ++ " must not be empty")) := rfl
  exact ⟨hadmits.mp ⟨_, hok⟩, hok, herror, (ofLookup_grammar mistaken).2.2 _ herror⟩

end Settings

end DeliveryGate
