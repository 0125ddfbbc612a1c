import DeliveryGate.Proofs.Filter.Lists
import DeliveryGate.Proofs.Filter.Membership
import DeliveryGate.Proofs.Wire.Filter

/-!
# Spellings of an expected value

What a filter compares with is a text, but a scalar may be written without quotes: it stands for its
text (`Draft.decode_eq`), whatever the format of the document, once the types of its parts are
settled. The items of an array stand for their texts as well (`Operator.isIn_compact_iff`), and an
actual value is compared by its text too. So it does not matter whether a scalar is written bare, as
a string, or as the one item of a list (`Draft.spellings_agree`).
-/

namespace DeliveryGate

/-- What a drafted filter looks into: a source, or the answer of a webhook. -/
inductive Target where
  | source (source : Source)
  | webhook (url : String)

/-- A filter that compares a field, with any value in the place of the expected text. -/
structure Draft where
  target : Target
  field : String
  operator : Operator
  value : Json

namespace Draft

variable {draft : Draft}

/-- The test that is meant: the value stands for its text. -/
def test (draft : Draft) : FieldTest := ⟨draft.field, draft.operator, draft.value.text⟩

/-- The leaf that is meant. -/
def leaf (draft : Draft) : Leaf :=
  match draft.target with
  | .source source => .field source draft.test
  | .webhook url => .webhook url draft.test

/-- The fields as they are written, the value as it is. -/
def fields (draft : Draft) : List (String × Json) :=
  let fields := [("field", .str draft.field), ("operator", draft.operator.toJson),
    ("value", draft.value)]
  match draft.target with
  | .source _ => fields
  | .webhook url => ("webhookUrl", .str url) :: fields

def toJson (draft : Draft) : Json := .obj (("on", .str draft.leaf.kind.name) :: draft.fields)

/-- Whether the filter accepts an actual value. -/
def accepts (draft : Draft) (actual : Option Json) : Bool :=
  draft.test.operator.holds actual draft.test.expected

/-- The fields of a draft are read as the leaf that is meant. -/
theorem reader_restores (hbare : draft.value.isBare = true) (child : Reader Node)
    {origin : Origin} : (Node.shape child draft.leaf.kind).reader.Restores origin
      (.obj draft.fields) (.leaf draft.leaf) := by
  obtain ⟨target, field, operator, value⟩ := draft
  cases target with
  | source source => exact Leaf.source_restores source field operator value hbare child
  | webhook url => exact Leaf.webhook_restores url field operator value hbare child

/-- A drafted filter is read as the leaf that is meant, from any document whose parts settle to
those of the draft, in any order. -/
theorem decode_eq (hbare : draft.value.isBare = true) {d : Doc} {written : Json}
    (hd : d.buffered? = some (Doc.ofJsonIn .buffered written))
    (hwritten : written.Reorders draft.toJson) : Node.decode d = .ok (.leaf draft.leaf) := by
  have hheight : d.height ≠ 0 := by cases d <;> simp [Doc.height]
  obtain ⟨depth, hdepth⟩ := Nat.exists_eq_succ_of_ne_zero hheight
  rw [Node.decode, hdepth]
  exact Node.decodeWithin_of_shape hd hwritten (reader_restores hbare _)

end Draft

namespace Operator

/-- To be in an array is to equal the text of one of its items. -/
theorem isIn_compact_iff {values : List Json} (hcanonical : (Json.arr values).canonical = true)
    (hdouble : (Json.arr values).doubleFree = true)
    (hnesting : (Json.arr values).nesting ≤ Json.Raw.deepest) (actual : Option Json) :
    isIn.holds actual (Json.arr values).compact = true ↔
      ∃ value ∈ values, equal.holds actual value.text = true := by
  rw [isIn_iff_exists_equal, Authored.list_compact hcanonical hdouble hnesting]
  simp only [List.mem_map, exists_exists_and_eq_and]

end Operator

namespace Draft

open Operator

/-- The array with one scalar in it is as good as the scalar. -/
theorem isIn_compact_singleton {value : Json} (hbare : value.isBare = true)
    (actual : Option Json) :
    isIn.holds actual (Json.arr [value]).compact = equal.holds actual value.text := by
  have hlist := Authored.list_compact_bare (List.forall_mem_singleton.mpr hbare)
  rw [Bool.eq_iff_iff, isIn_iff_exists_equal, hlist]
  simp

/-- Membership in an array is equality with one of its items by their texts, and a scalar in the
place of an expected text is read as its text. So a scalar may be spelled bare, as a string, or as
the one item of a list. -/
theorem spellings_agree :
    (∀ values : List Json, (Json.arr values).canonical = true →
      (Json.arr values).doubleFree = true → (Json.arr values).nesting ≤ Json.Raw.deepest →
        ∀ actual : Option Json,
          (isIn.holds actual (Json.arr values).compact = true ↔
            ∃ value ∈ values, equal.holds actual value.text = true) ∧
          notIn.holds actual (Json.arr values).compact
            = !isIn.holds actual (Json.arr values).compact) ∧
    (∀ draft : Draft, draft.value.isBare = true → ∀ (d : Doc) (written : Json),
      d.buffered? = some (Doc.ofJsonIn .buffered written) → written.Reorders draft.toJson →
        Node.decode d = .ok (.leaf draft.leaf)) ∧
    (∀ (target : Target) (field : String) (value : Json), value.isBare = true →
      ∀ actual : Option Json,
        (Draft.mk target field equal (.str value.text)).accepts actual
            = (Draft.mk target field equal value).accepts actual ∧
          (Draft.mk target field isIn (.str (Json.arr [value]).compact)).accepts actual
            = (Draft.mk target field equal value).accepts actual) :=
  ⟨fun _ hcanonical hdouble hnesting actual =>
      ⟨isIn_compact_iff hcanonical hdouble hnesting actual, rfl⟩,
    fun _ hbare _ _ => decode_eq hbare,
    fun _ _ _ hbare actual => ⟨rfl, isIn_compact_singleton hbare actual⟩⟩

/-- The draft of a filter that asks a webhook for a number. -/
def decimal : Draft := ⟨.webhook "hook", "code", .equal, .int 31⟩

/-- The same filter in YAML: no type is settled yet, and the number is written to another base. -/
def hexadecimal : Doc :=
  let plain text := Doc.lexeme ⟨text, .plain, .untagged⟩
  .record (.yaml none) [(plain "value", plain "0x1F"), (plain "on", plain "webhook"),
    (plain "field", plain "code"), (plain "operator", plain "EQUAL"),
    (plain "webhookUrl", plain "hook")]

/-- A string with a comma is in an array, and a number in YAML is compared by its decimal text. -/
theorem spellings_agree_awkward :
    isIn.holds (some (.str "a,b")) (Json.arr [.arr [.str "]"], .str "a,b"]).compact = true ∧
      Node.decode hexadecimal = .ok (.leaf (.webhook "hook" ⟨"code", .equal, "31"⟩)) ∧
      (Draft.mk (.webhook "hook") "code" isIn (.str (Json.arr [.int 31]).compact)).accepts
        (some (.str "31")) = true := by
  obtain ⟨hmember, hdecode, hspellings⟩ := spellings_agree
  have hwritten : (Json.obj [("value", .int 31), ("on", .str "webhook"), ("field", .str "code"),
      ("operator", .str "EQUAL"), ("webhookUrl", .str "hook")]).Reorders decimal.toJson :=
    ⟨rfl, rfl, rfl⟩
  refine ⟨?_, hdecode decimal rfl hexadecimal _ rfl hwritten, ?_⟩
  · exact (hmember _ rfl rfl (by decide) _).1.mpr ⟨.str "a,b", by simp, by decide⟩
  · exact (hspellings (.webhook "hook") "code" (.int 31) rfl (some (.str "31"))).2.trans (by decide)

end Draft

end DeliveryGate
