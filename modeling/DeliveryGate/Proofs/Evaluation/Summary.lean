import DeliveryGate.Command.Program
import DeliveryGate.Proofs.Evaluation.Constant
import DeliveryGate.Proofs.Wire.Filter

/-!
# Summaries of stored conditions

The conditions of an outcome may be stored in a file and summarized later: the file is read as the
same conditions, whatever texts are in them, so the summary is that of the outcome
(`decideStep_summarized`).
-/

namespace DeliveryGate

variable {σ : Type}

/-- The bytes of a file that holds a value. -/
def Json.Layout.file (layout : Json.Layout) (value : Json) : ByteArray :=
  (String.ofList (layout.write 0 value)).toUTF8

/-- Conditions are read back from a file in JSON, however it is laid out, the fields of each
condition in any order. -/
theorem Loader.conditions_write {name : String} (hname : isJson name = true)
    {conditions : List Condition} {written : Json}
    (hwritten : written.Reorders (.arr (conditions.map Condition.toJson))) (layout : Json.Layout) :
    Loader.conditions name (some (layout.file written)) = .ok conditions := by
  have hread : Reader.list Condition.decode (Doc.ofJson written) = .ok conditions := by
    rw [← Doc.ofJsonIn_json]
    exact Reader.list_restores Condition.toJson
      (fun condition _ => Condition.decode_restores condition) written hwritten
  have hproper : written.proper = true :=
    hwritten.proper (Json.tidy_iff.mp (Json.tidy_map fun condition _ => condition.tidy_toJson)).1
  -- a condition holds nothing but texts and a boolean
  have hdouble : written.doubleFree = true := by
    refine hwritten.doubleFree ?_
    rw [Json.doubleFree, Json.all, Json.allItems_eq_true_iff, List.forall_mem_map]
    exact fun _ _ => rfl
  have hnesting : written.nesting ≤ Json.Raw.deepest := by
    have hitems : Json.nestingItems (conditions.map Condition.toJson) ≤ 1 := by
      rw [Json.nestingItems_le_iff, List.forall_mem_map]
      exact fun _ _ => Nat.le_refl 1
    rw [hwritten.nesting_eq, Json.nesting, Json.Raw.deepest]
    omega
  rw [Loader.conditions, Json.Layout.file, ofFile_toUTF8 _ hname]
  exact ofJsonText_write _ layout (Json.legible_of_proper hproper hdouble) hnesting hread

/-- The summary of an outcome is that of its conditions. -/
theorem decideStep_usage {c : Collaborators σ} {header : String} {filters : List Node}
    {ctx : Context} {start stop : EvaluatorState σ} {outcome : Outcome}
    (h : decideStep c header filters ctx start = (.ok outcome, stop)) :
    outcome.usage = Usage.ofConditions outcome.conditions := by
  rw [decideStep] at h
  split at h
  · cases h
    rfl
  · obtain ⟨vars, begun, -, h⟩ := Run.bind_eq_ok_iff.mp h
    obtain ⟨⟨passed, traces⟩, walked, -, h⟩ := Run.bind_eq_ok_iff.mp h
    cases h
    rfl

/-- The conditions of an outcome, stored in a file whose name ends in `.json`, are read back as they
were and summarized as in the outcome; the command that summarizes the file reports this summary.
The file may be written on one line, on several, or with any other blanks between its parts, and the
fields of each condition may stand in any order. -/
theorem decideStep_summarized {c : Collaborators σ} {header : String} {filters : List Node}
    {ctx : Context} {start stop : EvaluatorState σ} {outcome : Outcome}
    (h : decideStep c header filters ctx start = (.ok outcome, stop)) {name : String}
    (hname : Loader.isJson name = true) :
    (Json.arr (outcome.conditions.map Condition.toJson)).Reorders
      (.arr (outcome.conditions.map Condition.toJson)) ∧
    ∀ written : Json, written.Reorders (.arr (outcome.conditions.map Condition.toJson)) →
      ∀ layout : Json.Layout,
        Loader.conditions name (some (layout.file written)) = .ok outcome.conditions ∧
        (Loader.conditions name (some (layout.file written))).map Usage.ofConditions
          = .ok outcome.usage ∧
        ∀ env now, Command.Action.summarize.report env name (some (layout.file written)) now
          = Command.Report.value outcome.usage.toJson := by
  have husage := decideStep_usage h
  have htidy : (Json.arr (outcome.conditions.map Condition.toJson)).tidy = true :=
    Json.tidy_map fun condition _ => condition.tidy_toJson
  refine ⟨.refl (Json.tidy_iff.mp htidy).2, fun written hwritten layout => ?_⟩
  have hload := Loader.conditions_write hname hwritten layout
  refine ⟨hload, ?_, fun env now => ?_⟩
  · rw [hload, husage]
    rfl
  · rw [Command.Action.report, hload, husage]

/-- A webhook leaf after a payload leaf that asks for more than plain letters. -/
def Node.asksFarAndWide : Node :=
  .group .or [.leaf (.field .payload ⟨"größe.\"名\n", .equal, "\\ 😀"⟩),
    .asksWebhook "https://a.test" "yes"]

/-- The conditions of the sample, written on several lines, are summarized as in its outcome. -/
theorem decideStep_summarized_sample : ∃ outcome stop,
    decideStep World.collaborators "signature" [Node.asksFarAndWide] Context.sample
      EvaluatorState.sample = (.ok outcome, stop) ∧
    outcome.usage = ⟨["payload", "webhook"], ["webhook"], ["payload"]⟩ ∧
    Command.Action.summarize.report [] "run.json"
        (some (Json.Layout.lines.file (.arr (outcome.conditions.map Condition.toJson))))
        World.sample.now
      = Command.Report.value outcome.usage.toJson := by
  obtain ⟨outcome, stop, hdecide, husage⟩ : ∃ outcome stop,
      decideStep World.collaborators "signature" [Node.asksFarAndWide] Context.sample
        EvaluatorState.sample = (.ok outcome, stop) ∧
      outcome.usage = ⟨["payload", "webhook"], ["webhook"], ["payload"]⟩ := ⟨_, _, rfl, rfl⟩
  obtain ⟨hwritten, hread⟩ := decideStep_summarized hdecide
    (show Loader.isJson "run.json" = true by decide)
  exact ⟨outcome, stop, hdecide, husage, (hread _ hwritten .lines).2.2 [] World.sample.now⟩

end DeliveryGate
