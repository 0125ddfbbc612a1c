import DeliveryGate.Document.Doc
import DeliveryGate.Yaml.Stream
import DeliveryGate.Yaml.Tree

/-!
# Documents of YAML

From a tree to a document: every alias gives way to the node that it means. Anchors are numbered in
the order of the text. The number of an anchor is how many names there are before it, so an anchor
whose name is known already takes a number that the next new name takes again. An alias means the
number that its name has at its place, and with it the last node of that number.

As a node may lie inside itself, the depth of a document is limited, and so is the number of aliases
that are followed in it. What lies beyond is broken.
-/

namespace DeliveryGate

namespace Yaml

/-! ### Numbers of anchors -/

/-- The names of anchors before a place in a text. -/
structure AnchorNames where
  /-- The number of each name, the latest first. -/
  numbers : List (String × Nat) := []
  /-- How many names there are. -/
  count : Nat := 0

namespace AnchorNames

/-- Number the anchor of a node, if it has one. -/
def enter (names : AnchorNames) (properties : Properties String) : Properties Nat × AnchorNames :=
  match properties.anchor with
  | none => (⟨none, properties.tag⟩, names)
  | some name =>
    let count := if (names.numbers.lookup name).isSome then names.count else names.count + 1
    (⟨some names.count, properties.tag⟩, ⟨(name, names.count) :: names.numbers, count⟩)

end AnchorNames

namespace Tree

mutual

/-- The tree with numbers in place of names; `none` if an alias has no anchor before it. -/
def numbered? (names : AnchorNames) : Tree String → Option (Tree Nat × AnchorNames)
  | .alias name => (names.numbers.lookup name).map fun n => (.alias n, names)
  | .scalar properties text style =>
    let (properties, names) := names.enter properties
    some (.scalar properties text style, names)
  | .list properties items => do
    let (properties, names) := names.enter properties
    let (items, names) ← numberedItems? names items
    some (.list properties items, names)
  | .record properties fields => do
    let (properties, names) := names.enter properties
    let (fields, names) ← numberedFields? names fields
    some (.record properties fields, names)

def numberedItems? (names : AnchorNames) :
    List (Tree String) → Option (List (Tree Nat) × AnchorNames)
  | [] => some ([], names)
  | item :: rest => do
    let (item, names) ← numbered? names item
    let (items, names) ← numberedItems? names rest
    some (item :: items, names)

def numberedFields? (names : AnchorNames) :
    List (Tree String × Tree String) → Option (List (Tree Nat × Tree Nat) × AnchorNames)
  | [] => some ([], names)
  | (key, value) :: rest => do
    let (key, names) ← numbered? names key
    let (value, names) ← numbered? names value
    let (fields, names) ← numberedFields? names rest
    some ((key, value) :: fields, names)

end

/-! ### Aliases -/

/-- The node with its anchor, if it has one. -/
def ownAnchor {α : Type} (properties : Properties α) (tree : Tree α) : List (α × Tree α) :=
  match properties.anchor with
  | none => []
  | some anchor => [(anchor, tree)]

mutual

/-- The nodes with anchors, in the order of the text. -/
def anchored {α : Type} : Tree α → List (α × Tree α)
  | .alias _ => []
  | .scalar properties text style => ownAnchor properties (.scalar properties text style)
  | .list properties items =>
    ownAnchor properties (.list properties items) ++ anchoredItems items
  | .record properties fields =>
    ownAnchor properties (.record properties fields) ++ anchoredFields fields

def anchoredItems {α : Type} : List (Tree α) → List (α × Tree α)
  | [] => []
  | item :: rest => anchored item ++ anchoredItems rest

def anchoredFields {α : Type} : List (Tree α × Tree α) → List (α × Tree α)
  | [] => []
  | (key, value) :: rest => anchored key ++ anchored value ++ anchoredFields rest

end

mutual

/-- How many events a tree is told by: a list or record has one at its start and one at its end. -/
def events {α : Type} : Tree α → Nat
  | .alias _ => 1
  | .scalar _ _ _ => 1
  | .list _ items => eventsOfItems items + 2
  | .record _ fields => eventsOfFields fields + 2

def eventsOfItems {α : Type} : List (Tree α) → Nat
  | [] => 0
  | item :: rest => events item + eventsOfItems rest

def eventsOfFields {α : Type} : List (Tree α × Tree α) → Nat
  | [] => 0
  | (key, value) :: rest => events key + events value + eventsOfFields rest

end

/-- The tag of a scalar by its full text. -/
def tagOf : Option String → Tag
  | none => .untagged
  | some text =>
    match text.toList with
    | ['!'] => .custom "!"
    | '!' :: name => .custom (String.ofList name)
    | _ =>
      if text == "tag:yaml.org,2002:bool" then .bool
      else if text == "tag:yaml.org,2002:int" then .int
      else if text == "tag:yaml.org,2002:float" then .float
      else if text == "tag:yaml.org,2002:null" then .null
      else .standard

/-- The origin of a list or record with a tag. -/
def originOf (tag : Option String) : Origin :=
  match tagOf tag with
  | .custom name => .yaml (some name)
  | _ => .yaml none

/-- The node that a node means; the state is how many aliases may still be followed. -/
def follow (nodes : List (Nat × Tree Nat)) : Tree Nat → StateM Nat (Tree Nat)
  | .alias n => do
    let left ← get
    set (left - 1)
    if left = 0 then return .alias n
    return (nodes.lookup n).getD (.alias n)
  | tree => return tree

/-- The document of a tree in which at most `depth` lists and records are open at one place, given
the nodes with anchors, the last first. -/
def toDoc (nodes : List (Nat × Tree Nat)) : Nat → Tree Nat → StateM Nat Doc
  | 0, tree => do
    match ← follow nodes tree with
    | .scalar properties text style => return .lexeme ⟨text, style, tagOf properties.tag⟩
    | _ => return .broken
  | depth + 1, tree => do
    match ← follow nodes tree with
    | .alias _ => return .broken
    | .scalar properties text style => return .lexeme ⟨text, style, tagOf properties.tag⟩
    | .list properties items =>
      return .list (originOf properties.tag) (← items.mapM (toDoc nodes depth))
    | .record properties fields =>
      let docs ← fields.mapM fun (key, value) => do
        return (← toDoc nodes depth key, ← toDoc nodes depth value)
      return .record (originOf properties.tag) docs

/-- How many lists and records may be open at one place. -/
def deepest : Nat := 128

/-- The document of a tree; of every event on average a hundred aliases are followed. -/
def document (tree : Tree Nat) : Doc :=
  (toDoc tree.anchored.reverse deepest tree (100 * tree.events)).1

end Tree

/-- The document of a text. -/
def document? (text : String) : Option Doc := do
  let tokens ← Stream.ofText? text.toList
  let tree ← Tree.ofTokens? tokens
  let (tree, _) ← tree.numbered? {}
  some tree.document

end Yaml

end DeliveryGate
