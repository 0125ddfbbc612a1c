import DeliveryGate.Yaml.Token

/-!
# The nodes of a YAML document

`Tree` is a document with its structure known and its aliases still standing for the nodes that they
name. `Tree.ofTokens?` reads the one document of a token stream. Whatever may be left out between
two marks is an empty plain scalar.
-/

namespace DeliveryGate

namespace Yaml

/-- What may stand in front of a node: an anchor for aliases to refer to, and a tag. -/
structure Properties (α : Type) where
  anchor : Option α := none
  tag : Option String := none
  deriving DecidableEq

/-- A node; anchors and aliases are of type `α`. -/
inductive Tree (α : Type) where
  | alias (anchor : α)
  | scalar (properties : Properties α) (text : String) (style : LexemeStyle)
  | list (properties : Properties α) (items : List (Tree α))
  | record (properties : Properties α) (fields : List (Tree α × Tree α))

namespace Tree

/-- The node where nothing is written. -/
def nothing : Tree String := .scalar {} "" .plain

/-! ### Properties -/

/-- The handles of tags and what they stand for. -/
abbrev Handles := List (String × String)

/-- The handles that need no declaration. -/
def commonHandles : Handles := [("!", "!"), ("!!", "tag:yaml.org,2002:")]

/-- The full text of a tag. -/
def fullTag? (handles : Handles) (handle suffix : String) : Option String :=
  if handle.isEmpty then some suffix else (handles.lookup handle).map (· ++ suffix)

/-- The properties at the start of some tokens, in either order, and the other tokens. -/
def properties? (handles : Handles) : List Token → Option (Properties String × List Token)
  | .anchor name :: .tag handle suffix :: rest
  | .tag handle suffix :: .anchor name :: rest =>
    (fullTag? handles handle suffix).map fun tag => (⟨some name, some tag⟩, rest)
  | .anchor name :: rest => some (⟨some name, none⟩, rest)
  | .tag handle suffix :: rest =>
    (fullTag? handles handle suffix).map fun tag => (⟨none, some tag⟩, rest)
  | tokens => some ({}, tokens)

/-- A lone exclamation mark in front of a scalar is no tag. -/
def scalarProperties (properties : Properties String) : Properties String :=
  if properties.tag = some "!" then { properties with tag := none } else properties

/-! ### Nodes -/

/-- Where a node stands, which decides what may be there. -/
inductive Place where
  | flow
  | block
  /-- A key or a value of a block record, where the items of a list need no indentation. -/
  | field
  deriving DecidableEq

/-- Whether one of these marks comes next. -/
def atOneOf (marks : List Token) (tokens : List Token) : Bool := tokens.head?.any marks.contains

mutual

/-- Read a node. -/
def node? (handles : Handles) (place : Place) : Nat → List Token → Option (Tree String × List Token)
  | 0, _ => none
  | _ + 1, .alias name :: rest => some (.alias name, rest)
  | fuel + 1, tokens => do
    let (properties, rest) ← properties? handles tokens
    match rest with
    | .scalar text style :: rest => some (.scalar (scalarProperties properties) text style, rest)
    | .flowSequenceStart :: rest =>
      let (items, rest) ← flowItems? handles true fuel rest
      some (.list properties items, rest)
    | .flowMappingStart :: rest =>
      let (fields, rest) ← flowFields? handles true fuel rest
      some (.record properties fields, rest)
    | token :: after =>
      if place = .field && token = .blockEntry then
        let (items, rest) ← looseItems? handles fuel rest
        some (.list properties items, rest)
      else if place ≠ .flow && token = .blockSequence then
        let (items, rest) ← blockItems? handles fuel after
        some (.list properties items, rest)
      else if place ≠ .flow && token = .blockMapping then
        let (fields, rest) ← blockFields? handles fuel after
        some (.record properties fields, rest)
      else if properties = {} then none
      else some (.scalar properties "" .plain, rest)
    | [] => if properties = {} then none else some (.scalar properties "" .plain, [])

/-- Read a node that is left out if one of these marks comes next. -/
def nodeBefore? (handles : Handles) (place : Place) (marks : List Token) :
    Nat → List Token → Option (Tree String × List Token)
  | 0, _ => none
  | fuel + 1, tokens =>
    if atOneOf marks tokens then some (nothing, tokens) else node? handles place fuel tokens

/-- Read a value and the mark in front of it; both may be left out. -/
def valueBefore? (handles : Handles) (place : Place) (marks : List Token) :
    Nat → List Token → Option (Tree String × List Token)
  | 0, _ => none
  | fuel + 1, .value :: rest => nodeBefore? handles place marks fuel rest
  | _ + 1, tokens => some (nothing, tokens)

/-- Read the items of a block list to its end. -/
def blockItems? (handles : Handles) : Nat → List Token → Option (List (Tree String) × List Token)
  | 0, _ => none
  | _ + 1, .blockEnd :: rest => some ([], rest)
  | fuel + 1, .blockEntry :: rest => do
    let (item, rest) ← nodeBefore? handles .block [.blockEntry, .blockEnd] fuel rest
    let (items, rest) ← blockItems? handles fuel rest
    some (item :: items, rest)
  | _ + 1, _ => none

/-- Read the items of a block list that stand no deeper than the record around it. -/
def looseItems? (handles : Handles) : Nat → List Token → Option (List (Tree String) × List Token)
  | 0, _ => none
  | fuel + 1, .blockEntry :: rest => do
    let (item, rest) ←
      nodeBefore? handles .block [.blockEntry, .key, .value, .blockEnd] fuel rest
    let (items, rest) ← looseItems? handles fuel rest
    some (item :: items, rest)
  | _ + 1, tokens => some ([], tokens)

/-- Read the fields of a block record to its end. -/
def blockFields? (handles : Handles) :
    Nat → List Token → Option (List (Tree String × Tree String) × List Token)
  | 0, _ => none
  | _ + 1, .blockEnd :: rest => some ([], rest)
  | fuel + 1, .key :: rest => do
    let marks := [.key, .value, .blockEnd]
    let (key, rest) ← nodeBefore? handles .field marks fuel rest
    let (value, rest) ← valueBefore? handles .field marks fuel rest
    let (fields, rest) ← blockFields? handles fuel rest
    some ((key, value) :: fields, rest)
  | _ + 1, _ => none

/-- Read the items of a flow list to its end. A field among them is a record of its own; a mark that
stands for its key is skipped. -/
def flowItems? (handles : Handles) (first : Bool) :
    Nat → List Token → Option (List (Tree String) × List Token)
  | 0, _ => none
  | _ + 1, .flowSequenceEnd :: rest => some ([], rest)
  | fuel + 1, tokens => do
    let tokens ← if first then some tokens else afterComma? tokens
    match tokens with
    | .flowSequenceEnd :: rest => some ([], rest)
    | .key :: rest =>
      let marks := [.value, .flowEntry, .flowSequenceEnd]
      let (key, after) ← nodeBefore? handles .flow marks fuel rest
      let after := if atOneOf marks rest then after.drop 1 else after
      let (value, after) ← valueBefore? handles .flow [.flowEntry, .flowSequenceEnd] fuel after
      let (items, after) ← flowItems? handles false fuel after
      some (.record {} [(key, value)] :: items, after)
    | _ =>
      let (item, rest) ← node? handles .flow fuel tokens
      let (items, rest) ← flowItems? handles false fuel rest
      some (item :: items, rest)

/-- Read the fields of a flow record to its end. A node without a mark of keys is a key without a
value. -/
def flowFields? (handles : Handles) (first : Bool) :
    Nat → List Token → Option (List (Tree String × Tree String) × List Token)
  | 0, _ => none
  | _ + 1, .flowMappingEnd :: rest => some ([], rest)
  | fuel + 1, tokens => do
    let tokens ← if first then some tokens else afterComma? tokens
    match tokens with
    | .flowMappingEnd :: rest => some ([], rest)
    | .key :: rest =>
      let (key, rest) ← nodeBefore? handles .flow [.value, .flowEntry, .flowMappingEnd] fuel rest
      let (value, rest) ← valueBefore? handles .flow [.flowEntry, .flowMappingEnd] fuel rest
      let (fields, rest) ← flowFields? handles false fuel rest
      some ((key, value) :: fields, rest)
    | _ =>
      let (key, rest) ← node? handles .flow fuel tokens
      let (fields, rest) ← flowFields? handles false fuel rest
      some ((key, nothing) :: fields, rest)

/-- The tokens behind a comma, which must be there. -/
def afterComma? : List Token → Option (List Token)
  | .flowEntry :: rest => some rest
  | _ => none

end

/-! ### Documents -/

/-- The directives of a document: at most one version, which must be known, and each handle once. -/
def directives? : Bool → Handles → List Token → Option (Handles × List Token)
  | versioned, handles, .version major minor :: rest =>
    if versioned || major ≠ 1 || (minor ≠ 1 && minor ≠ 2) then none
    else directives? true handles rest
  | versioned, handles, .tagHandle handle uri :: rest =>
    if (handles.lookup handle).isSome then none
    else directives? versioned (handles ++ [(handle, uri)]) rest
  | _, handles, tokens => some (handles, tokens)

/-- Whether a document ends here. -/
def atDocumentEnd : List Token → Bool
  | [] => true
  | .documentEnd :: _ => true
  | .documentStart :: _ => true
  | .version _ _ :: _ => true
  | .tagHandle _ _ :: _ => true
  | _ => false

/-- Read the one document of some tokens, which may be followed by marks of its end only. Without
any token there is nothing. -/
def ofTokens? (tokens : List Token) : Option (Tree String) := do
  let (handles, rest) ← directives? false [] tokens
  let handles := handles ++ commonHandles
  let fuel := 4 * tokens.length + 4
  let (tree, rest) ←
    match rest with
    | [] => if tokens.isEmpty then some (nothing, []) else none
    | .documentStart :: rest =>
      if atDocumentEnd rest then some (nothing, rest) else node? handles .block fuel rest
    | _ => if rest.length = tokens.length then node? handles .block fuel rest else none
  if rest.all (· = .documentEnd) then some tree else none

end Tree

end Yaml

end DeliveryGate
