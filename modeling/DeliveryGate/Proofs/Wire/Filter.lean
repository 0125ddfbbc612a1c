import DeliveryGate.Proofs.Document.Objects
import DeliveryGate.Proofs.Walk.Plan

/-!
# Filters and their documents

A condition and a filter are read back from the documents of their JSON, the fields in any order
(`Condition.decode_restores`, `Node.decode_restores`). Below the root the parts of a filter are read
with their types settled, so everything is said for lists and records of any origin, and a filter is
found in every document that settles to its JSON (`Node.split?_of_buffered?`). A window of a filter
must fit 64 bits with sign; this is so for whatever is read (`Node.decode_yields`), and then the
JSON is tidy (`Node.tidy_toJson`).
-/

namespace DeliveryGate

variable {origin : Origin}

/-! ### Conditions -/

theorem Operator.decode_restores (operator : Operator) :
    decode.Restores origin operator.toJson operator :=
  Reader.choice_restores operator.lookup_name

theorem Condition.decode_restores (condition : Condition) :
    decode.Restores origin condition.toJson condition := by
  refine Shape.Restores.reader ?_ rfl
  exact .given (.given (.given (.given (.given (.given .make rfl (Reader.text_restores _)) rfl
    (Reader.text_restores _)) rfl (Reader.text_restores _)) rfl (Reader.text_restores _)) rfl
    (Operator.decode_restores _)) rfl (Reader.flag_restores _)

theorem Condition.tidy_toJson (condition : Condition) : condition.toJson.tidy = true := by
  refine Json.tidy_obj.mpr ⟨of_decide_eq_true rfl, ?_⟩
  simp [Operator.toJson]

/-! ### Leaves -/

theorem TimeUnit.decode_restores (unit : TimeUnit) : decode.Restores origin unit.toJson unit :=
  Reader.choice_restores (by cases unit <;> rfl)

theorem StepState.decode_restores (state : StepState) :
    decode.Restores origin state.toJson state :=
  Reader.choice_restores (by cases state <;> rfl)

theorem GroupOperator.decode_restores (operator : GroupOperator) :
    decode.Restores origin operator.toJson operator :=
  Reader.choice_restores (by cases operator <;> rfl)

theorem Kind.lookup_name (kind : Kind) : names.lookup kind.name = some kind := by
  cases kind <;> rfl

namespace Leaf

/-- Whether a leaf's window fits 64 bits, if it has one. -/
def fits : Leaf → Bool
  | .onlineInLast window _ => -0x8000000000000000 ≤ window && window < 0x8000000000000000
  | _ => true

/-- The three fields of a test are read wherever they stand; what it compares with may be any scalar
that stands for its text. -/
theorem testShape_restores {α : Type} {shape : Shape (String → Operator → String → α)}
    {f : String → Operator → String → α} {fields : List (String × Json)} {field : String}
    {operator : Operator} {value : Json} (h : shape.Restores origin fields f)
    (hfield : fields.lookup "field" = some (.str field))
    (hoperator : fields.lookup "operator" = some operator.toJson)
    (hvalue : fields.lookup "value" = some value) (hbare : value.isBare = true) :
    (testShape shape).Restores origin fields (f field operator value.text) :=
  .given (.given (.given h hfield (Reader.text_restores _)) hoperator
    (Operator.decode_restores _)) hvalue (Reader.scalarText_restores hbare)

/-- A test of a source is read from its fields. -/
theorem source_restores (source : Source) (field : String) (operator : Operator) (value : Json)
    (hbare : value.isBare = true) (child : Reader Node) :
    (Node.shape child (Leaf.field source ⟨field, operator, value.text⟩).kind).reader.Restores origin
      (.obj [("field", .str field), ("operator", operator.toJson), ("value", value)])
      (.leaf (.field source ⟨field, operator, value.text⟩)) := by
  have hread : (fieldShape source).Restores origin
      [("field", .str field), ("operator", operator.toJson), ("value", value)]
      (.field source ⟨field, operator, value.text⟩) :=
    testShape_restores .make rfl rfl rfl hbare
  cases source <;> exact (hread.map Node.leaf).reader rfl

/-- A test of a webhook's answer is read from its fields. -/
theorem webhook_restores (url field : String) (operator : Operator) (value : Json)
    (hbare : value.isBare = true) (child : Reader Node) :
    (Node.shape child .webhook).reader.Restores origin
      (.obj [("webhookUrl", .str url), ("field", .str field), ("operator", operator.toJson),
        ("value", value)])
      (.leaf (.webhook url ⟨field, operator, value.text⟩)) := by
  have hread : webhookShape.Restores origin [("webhookUrl", .str url), ("field", .str field),
      ("operator", operator.toJson), ("value", value)]
      (.webhook url ⟨field, operator, value.text⟩) :=
    testShape_restores (.given .make rfl (Reader.text_restores _)) rfl rfl rfl hbare
  exact (hread.map Node.leaf).reader rfl

/-- The fields of a leaf are read as the leaf. -/
theorem reader_restores {l : Leaf} (h : l.fits = true) (child : Reader Node) :
    (Node.shape child l.kind).reader.Restores origin (.obj l.fields) (.leaf l) := by
  cases l with
  | field source test =>
    exact source_restores source test.field test.operator (.str test.expected) rfl child
  | webhook url test =>
    exact webhook_restores url test.field test.operator (.str test.expected) rfl child
  | online expected =>
    have hread : onlineShape.Restores origin [("value", .bool expected)] (.online expected) :=
      .given .make rfl (Reader.flag_restores _)
    exact (hread.map Node.leaf).reader rfl
  | onlineInLast window unit =>
    have hread : onlineInLastShape.Restores origin
        [("value", .int window), ("timeOperator", unit.toJson)] (.onlineInLast window unit) :=
      .given (.given .make rfl (Reader.integer_restores h)) rfl (TimeUnit.decode_restores unit)
    exact (hread.map Node.leaf).reader rfl
  | previousStep step state =>
    have hread : previousStepShape.Restores origin
        [("step", .str step), ("stepType", state.toJson)] (.previousStep step state) :=
      .given (.given .make rfl (Reader.text_restores _)) rfl (StepState.decode_restores state)
    exact (hread.map Node.leaf).reader rfl

theorem tidy_toJson {l : Leaf} (h : l.fits = true) : l.toJson.tidy = true := by
  refine Json.tidy_obj.mpr ⟨by cases l <;> simp [fields, FieldTest.fields], ?_⟩
  refine List.forall_mem_cons.mpr ⟨rfl, ?_⟩
  cases l with
  | onlineInLast window unit =>
    have hwindow : (Json.int window).tidy = true := by
      simp only [fits, Bool.and_eq_true, decide_eq_true_eq] at h
      change Json.isWord window = true
      rw [Json.isWord, Bool.and_eq_true, decide_eq_true_eq, decide_eq_true_eq]
      omega
    simpa [fields, TimeUnit.toJson] using hwindow
  | _ => simp [fields, FieldTest.fields, Operator.toJson, StepState.toJson]

end Leaf

/-! ### Filters -/

theorem Reader.integer_yields : integer.Yields fun n =>
    (-0x8000000000000000 ≤ n && n < 0x8000000000000000 : Bool) = true := by
  intro d n _ h
  rw [integer, ofOption] at h
  split at h
  · rename_i found hfound
    obtain rfl := Except.ok.inj h
    split at hfound
    · rename_i m
      split at hfound
      · rename_i hm
        exact Option.some.inj hfound ▸ hm
      · cases hfound
    · cases hfound
  · cases h

namespace Node

/-- All windows in a filter fit 64 bits. -/
def fits (node : Node) : Bool := node.leaves.all Leaf.fits

theorem fits_leaf (l : Leaf) : (leaf l).fits = l.fits := by
  rw [fits, leaves_leaf, List.all_cons, List.all_nil, Bool.and_true]

theorem fits_group {operator : GroupOperator} {children : List Node} :
    (group operator children).fits = true ↔ ∀ child ∈ children, child.fits = true := by
  rw [fits, leaves_group, List.all_flatMap, List.all_eq_true]
  rfl

/-- The values of the kind are set apart, and the types of the rest are settled. -/
theorem splitKind?_of_bufferedFields? : ∀ {docs : List (Doc × Doc)}
    {fields : List (String × Json)},
    Doc.bufferedFields? docs = some (Doc.ofJsonInFields .buffered fields) →
      ∃ kinds, splitKind? docs = some (kinds,
          Doc.ofJsonInFields .buffered (fields.filter fun field => field.1 != "on")) ∧
        kinds.map Doc.buffered? = (fields.filter fun field => field.1 == "on").map fun field =>
          some (Doc.ofJsonIn .buffered field.2)
  | [], [], _ => ⟨[], rfl, rfl⟩
  | [], _ :: _, h => nomatch h
  | _ :: _, [], h => by
    simp only [Doc.bufferedFields?, Option.bind_eq_bind, Option.bind_eq_some_iff] at h
    obtain ⟨_, _, _, _, _, _, h⟩ := h
    cases h
  | (keyDoc, doc) :: docs, (key, value) :: rest, h => by
    simp only [Doc.bufferedFields?, Option.bind_eq_bind, Option.bind_eq_some_iff] at h
    obtain ⟨_, hkey, _, hvalue, _, hdocs, h⟩ := h
    cases h
    obtain ⟨kinds, hsplit, hkinds⟩ := splitKind?_of_bufferedFields? hdocs
    -- the key is compared when it is settled, but the kind is kept as it stands in the document
    rw [splitKind?, hkey]
    simp only [Option.bind_eq_bind, Option.bind_some]
    split
    · rename_i heq
      obtain rfl : key = "on" := by simpa using heq
      refine ⟨doc :: kinds, ?_, ?_⟩
      · rw [hsplit]
        rfl
      · rw [List.map_cons, hvalue, hkinds]
        rfl
    · rename_i hne
      have hon : key ≠ "on" := fun heq => hne (by rw [heq])
      refine ⟨kinds, ?_, ?_⟩
      · rw [hvalue, hsplit]
        simp [hon, Doc.ofJsonInFields]
      · simpa [hon] using hkinds

theorem kindOfDoc?_of_buffered? {d : Doc} {kind : Kind}
    (h : d.buffered? = some (.scalar (.str kind.name))) : kindOfDoc? origin d = some kind := by
  cases d with
  | scalar s =>
    cases h
    exact kind.lookup_name
  | lexeme l =>
    obtain ⟨s, hs, heq⟩ := Option.map_eq_some_iff.mp h
    cases heq
    rw [kindOfDoc?, ← Lexeme.eq_text_of_resolve? hs, kind.lookup_name]
  | list =>
    obtain ⟨-, _, -, h⟩ := Doc.buffered?_list_eq_some_iff.mp h
    cases h
  | record =>
    obtain ⟨-, _, -, h⟩ := Doc.buffered?_record_eq_some_iff.mp h
    cases h
  | broken => cases h

/-- The kind is found wherever it stands, and the rest of an object is its body. -/
theorem split?_of_buffered? {d : Doc} {kind : Kind} {written fields : List (String × Json)}
    (hd : d.buffered? = some (Doc.ofJsonIn .buffered (.obj written)))
    (h : (Json.obj written).Reorders (.obj (("on", .str kind.name) :: fields))) :
    ∃ body : Json, split? d = some (kind, Doc.ofJsonIn .buffered body) ∧
      body.Reorders (.obj fields) := by
  cases d with
  | record origin docs =>
    obtain ⟨horigin, settled, hdocs, heq⟩ := Doc.buffered?_record_eq_some_iff.mp hd
    cases heq
    obtain ⟨kinds, hsplit, hkinds⟩ := splitKind?_of_bufferedFields? hdocs
    obtain ⟨value, hon, hvalue⟩ := h.field (List.mem_cons_self ..)
    rw [hon, hvalue.eq_str, List.map_singleton, List.map_eq_singleton_iff] at hkinds
    obtain ⟨kindDoc, rfl, hkind⟩ := hkinds
    refine ⟨_, ?_, h.without⟩
    rw [split?, hsplit]
    simp only [horigin, kindOfDoc?_of_buffered? hkind, Option.bind_eq_bind, Option.bind_some]
    rfl
  | list =>
    obtain ⟨-, _, -, heq⟩ := Doc.buffered?_list_eq_some_iff.mp hd
    cases heq
  | lexeme l =>
    obtain ⟨_, -, heq⟩ := Option.map_eq_some_iff.mp hd
    cases heq
  | scalar => cases hd
  | broken => cases hd

theorem listToJson_eq_map (nodes : List Node) : listToJson nodes = nodes.map toJson := by
  induction nodes with
  | nil => rfl
  | cons node rest ih => rw [listToJson, ih, List.map_cons]

theorem decodeWithin_of_split? {d body : Doc} {kind : Kind} (h : split? d = some (kind, body))
    (depth : Nat) : decodeWithin (depth + 1) d = (shape (decodeWithin depth) kind).reader body := by
  rw [decodeWithin]
  simp only [h]

/-- The document of a child is less high than that of its group. -/
theorem height_child_lt {operator : GroupOperator} {children : List Node} {child : Node}
    (h : child ∈ children) : (Doc.ofJsonIn origin child.toJson).height
      < (Doc.ofJsonIn origin (group operator children).toJson).height := by
  have hchild : Doc.ofJsonIn origin child.toJson
      ∈ Doc.ofJsonInItems origin (listToJson children) := by
    rw [listToJson_eq_map, Doc.ofJsonInItems_eq_map]
    exact List.mem_map_of_mem (List.mem_map_of_mem h)
  have hitems := Doc.height_le_itemsHeight hchild
  rw [toJson]
  simp only [Doc.ofJsonIn, Doc.ofJsonInFields, Doc.height, Doc.fieldsHeight]
  omega

/-- Where the kind and the body of a filter are read, so is the filter. -/
theorem decodeWithin_of_shape {d : Doc} {written : Json} {node : Node} {kind : Kind}
    {fields : List (String × Json)} {depth : Nat}
    (hd : d.buffered? = some (Doc.ofJsonIn .buffered written))
    (hwritten : written.Reorders (.obj (("on", .str kind.name) :: fields)))
    (h : (shape (decodeWithin depth) kind).reader.Restores .buffered (.obj fields) node) :
    decodeWithin (depth + 1) d = .ok node := by
  obtain ⟨written, rfl⟩ := hwritten.eq_obj
  obtain ⟨body, hsplit, hbody⟩ := split?_of_buffered? hd hwritten
  exact (decodeWithin_of_split? hsplit depth).trans (h body hbody)

theorem decodeWithin_restores_of_shape (horigin : origin.isFree = true) {node : Node} {kind : Kind}
    {fields : List (String × Json)} {depth : Nat}
    (h : (shape (decodeWithin depth) kind).reader.Restores .buffered (.obj fields) node) :
    (decodeWithin (depth + 1)).Restores origin (.obj (("on", .str kind.name) :: fields)) node :=
  fun written hwritten => decodeWithin_of_shape (Doc.buffered?_ofJsonIn horigin written) hwritten h

/-- A filter is read back where there is depth enough for its document. -/
theorem decodeWithin_restores {node : Node} (h : node.fits = true) {depth : Nat}
    (horigin : origin.isFree = true)
    (hdepth : (Doc.ofJsonIn .buffered node.toJson).height ≤ depth) :
    (decodeWithin depth).Restores origin node.toJson node := by
  induction node using Node.inductionOn generalizing origin depth with
  | leaf l =>
    have hfits : l.fits = true := (fits_leaf l).symm.trans h
    cases depth with
    | zero => cases hdepth
    | succ depth => exact decodeWithin_restores_of_shape horigin (Leaf.reader_restores hfits _)
  | group operator children ih =>
    cases depth with
    | zero => cases hdepth
    | succ depth =>
      have hchildren : ∀ child ∈ children,
          (decodeWithin depth).Restores .buffered child.toJson child := fun child hmem =>
        ih child hmem (fits_group.mp h child hmem) rfl
          (Nat.le_of_lt_succ ((height_child_lt hmem).trans_le hdepth))
      refine decodeWithin_restores_of_shape horigin (Shape.Restores.reader ?_ rfl)
      rw [listToJson_eq_map]
      exact .given (.given .make rfl (GroupOperator.decode_restores operator)) rfl
        (Reader.list_restores toJson hchildren)

theorem decode_restores {node : Node} (h : node.fits = true) (horigin : origin.isFree = true) :
    decode.Restores origin node.toJson node := by
  intro written hwritten
  refine decodeWithin_restores h horigin ?_ written hwritten
  rw [Doc.height_ofJsonIn written, Doc.height_reorders hwritten]

theorem tidy_toJson {node : Node} (h : node.fits = true) : node.toJson.tidy = true := by
  induction node using Node.inductionOn with
  | leaf l => exact Leaf.tidy_toJson ((fits_leaf l).symm.trans h)
  | group operator children ih =>
    have hchildren : ∀ child ∈ children, child.toJson.tidy = true := fun child hmem =>
      ih child hmem (fits_group.mp h child hmem)
    rw [toJson, Json.tidy_obj, listToJson_eq_map]
    refine ⟨of_decide_eq_true rfl, ?_⟩
    simpa [GroupOperator.toJson, Json.tidy_arr] using hchildren

/-! ### What is read -/

/-- Whatever fields a node is made of, its windows fit if those of its children do. -/
theorem shape_yields {child : Reader Node} (h : child.Yields fun node => node.fits = true) :
    ∀ kind, (shape child kind).Yields fun node => node.fits = true
  | .group =>
    .field (Reader.list_yields h)
        (fun _ _ hnone => Option.some.inj hnone ▸ List.forall_mem_nil _) <|
      .any <| .make fun _ _ hchildren => fits_group.mpr hchildren
  | .payload | .subscriber | .tenant =>
    .map <| .any <| .any <| .any <| .make fun _ _ _ => fits_leaf _
  | .webhook => .map <| .any <| .any <| .any <| .any <| .make fun _ _ _ _ => fits_leaf _
  | .isOnline => .map <| .any <| .make fun _ => fits_leaf _
  | .isOnlineInLast =>
    .map <| .any <| .field Reader.integer_yields (fun _ _ hnone => nomatch hnone) <|
      .make fun window hwindow unit => (fits_leaf (.onlineInLast window unit)).trans hwindow
  | .previousStep => .map <| .any <| .any <| .make fun _ _ => fits_leaf _

theorem isJson_of_splitKind? : ∀ {fields : List (Doc × Doc)} {kinds : List Doc}
    {others : List (Doc × Doc)}, Doc.isJsonFields fields = true →
      splitKind? fields = some (kinds, others) → Doc.isJsonFields others = true
  | [], _, _, _, h => by
    cases h
    rfl
  | (key, value) :: rest, _, _, hfields, h => by
    rw [Doc.isJsonFields, Bool.and_eq_true] at hfields
    rw [splitKind?, Option.bind_eq_bind, Option.bind_eq_some_iff] at h
    obtain ⟨settledKey, -, h⟩ := h
    split at h
    · obtain ⟨⟨kinds, others⟩, hrest, h⟩ := Option.bind_eq_some_iff.mp h
      cases h
      exact isJson_of_splitKind? hfields.2 hrest
    · simp only [Option.bind_eq_bind, Option.bind_eq_some_iff] at h
      obtain ⟨settled, hsettled, ⟨kinds, others⟩, hrest, h⟩ := h
      cases h
      rw [Doc.isJsonFields, Bool.and_eq_true]
      exact ⟨Doc.isJson_of_buffered? hfields.1 hsettled, isJson_of_splitKind? hfields.2 hrest⟩

theorem isJson_of_split? {d body : Doc} {kind : Kind} (hd : d.isJson = true)
    (h : split? d = some (kind, body)) : body.isJson = true := by
  rw [split?.eq_def] at h
  split at h
  · simp only [Option.bind_eq_bind] at h
    split at h
    · cases h
    · obtain ⟨⟨kinds, fields⟩, hsplit, h⟩ := Option.bind_eq_some_iff.mp h
      have hfields := isJson_of_splitKind? hd hsplit
      split at h
      · rename_i heq
        obtain ⟨_, -, h⟩ := Option.bind_eq_some_iff.mp h
        cases heq
        cases h
        exact hfields
      · cases h
  · simp only [Option.bind_eq_bind] at h
    split at h
    · cases h
    · obtain ⟨_, -, h⟩ := Option.bind_eq_some_iff.mp h
      obtain ⟨items, hitems, h⟩ := Option.bind_eq_some_iff.mp h
      cases h
      rw [Doc.isJson, Doc.isJsonItems, Bool.and_eq_true] at hd
      exact Doc.isJsonItems_of_bufferedItems? hd.2 hitems
  · cases h

theorem decodeWithin_yields (depth : Nat) :
    (decodeWithin depth).Yields fun node => node.fits = true := by
  induction depth with
  | zero =>
    rintro _ _ _ ⟨⟩
  | succ depth ih =>
    intro d node hd hread
    simp only [decodeWithin] at hread
    split at hread
    · cases hread
    · rename_i kind body hsplit
      exact (shape_yields ih kind).reader body node (isJson_of_split? hd hsplit) hread

/-- The windows of a filter that was read fit 64 bits. -/
theorem decode_yields : decode.Yields fun node => node.fits = true := fun d node hd hread =>
  decodeWithin_yields d.height d node hd hread

end Node

end DeliveryGate
