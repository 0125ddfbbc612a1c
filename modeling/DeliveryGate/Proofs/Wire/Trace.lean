import DeliveryGate.Proofs.Json.Text
import DeliveryGate.Proofs.Wire.Filter
import DeliveryGate.Proofs.Wire.Record

/-!
# Traces and their texts

A trace is read back from the document of its JSON (`Trace.decode_restores`), and from its text if
no number in it is a double and its brackets are not nested too deep (`Trace.ofJsonText_toJson`).
Its variables must be such that documents may hold them, which those of a subscriber from JSON are
(`Subscriber.Settled.toJson`).
-/

namespace DeliveryGate

variable {α : Type} {origin : Origin}

namespace Variables

/-- All values are such that documents may hold them. -/
def Settled (vars : Variables) : Prop := ∀ source, ∀ value ∈ vars.source source, value.Settled

/-- The fields of variables are some of these. -/
theorem map_fst_sublist (vars : Variables) :
    ((Json.setField "subscriber" (fun v => v) vars.subscriber
      ++ Json.setField "payload" (fun v => v) vars.payload
      ++ Json.setField "tenant" (fun v => v) vars.tenant).map Prod.fst).Sublist
        ["subscriber", "payload", "tenant"] := by
  simp only [List.map_append]
  exact (Json.map_fst_setField_sublist.append Json.map_fst_setField_sublist).append
    Json.map_fst_setField_sublist

theorem decode_restores {vars : Variables} (h : vars.Settled) (horigin : origin.isFree = true) :
    decode.Restores origin vars.toJson vars := by
  have hread (source : Source) : ∀ value ∈ vars.source source,
      Reader.value.Restores origin value value ∧ value ≠ .null :=
    fun value hvalue => (h source value hvalue).restores horigin
  have hmissing (entries : Entries) (hnamed : entries.positional = false) :
      (if entries.positional then none else some none : Option (Option Json)) = some none := by
    rw [hnamed]
    rfl
  refine Shape.Restores.reader ?_ ?_
  · refine .found (.found (.found .make ?_ (hread .subscriber) hmissing) ?_ (hread .payload)
      hmissing) ?_ (hread .tenant) hmissing
    all_goals
      simp [List.lookup_append, Json.lookup_setField, Json.lookup_setField_of_ne,
        Variables.source]
  · exact List.all_eq_true.mpr fun name hname =>
      List.contains_iff_mem.mpr ((map_fst_sublist vars).subset hname)

theorem tidy_toJson {vars : Variables} (h : vars.Settled) : vars.toJson.tidy = true := by
  refine Json.tidy_obj.mpr ⟨?_, ?_⟩
  · exact List.Nodup.sublist (map_fst_sublist vars) (by decide)
  · simp only [List.forall_mem_append, Json.forall_mem_setField]
    exact ⟨⟨fun value hvalue => (h .subscriber value hvalue).tidy,
      fun value hvalue => (h .payload value hvalue).tidy⟩,
      fun value hvalue => (h .tenant value hvalue).tidy⟩

end Variables

namespace Trace

/-- A trace is read back from the document of its JSON. -/
theorem decode_restores {trace : Trace} (hfilter : trace.filter.fits = true)
    (hvars : trace.vars.Settled) (horigin : origin.isFree = true) :
    decode.Restores origin trace.toJson trace := by
  refine Shape.Restores.reader ?_ rfl
  exact .given (.given (.given .make rfl (Node.decode_restores hfilter horigin)) rfl
    (Variables.decode_restores hvars horigin)) rfl
    (Reader.list_restores Condition.toJson fun condition _ => Condition.decode_restores condition)

theorem tidy_toJson {trace : Trace} (hfilter : trace.filter.fits = true)
    (hvars : trace.vars.Settled) : trace.toJson.tidy = true := by
  refine Json.tidy_obj.mpr ⟨of_decide_eq_true rfl, ?_⟩
  simp [Node.tidy_toJson hfilter, Variables.tidy_toJson hvars, Json.tidy_arr,
    Condition.tidy_toJson]

/-- A trace is read back from its text, if no number in it is a double and its brackets are not
nested too deep. -/
theorem ofJsonText_toJson {trace : Trace} (hfilter : trace.filter.fits = true)
    (hvars : trace.vars.Settled) (hdouble : trace.toJson.doubleFree = true)
    (hnesting : trace.toJson.nesting ≤ Json.Raw.deepest) :
    Loader.ofJsonText decode trace.toJson.compact = .ok trace := by
  obtain ⟨hproper, hdistinct⟩ := Json.tidy_iff.mp (tidy_toJson hfilter hvars)
  refine Loader.ofJsonText_compact decode (Json.legible_of_proper hproper hdouble) hnesting ?_
  rw [← Doc.ofJsonIn_json]
  exact decode_restores hfilter hvars rfl _ (.refl hdistinct)

end Trace

end DeliveryGate
