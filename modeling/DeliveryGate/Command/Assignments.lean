import DeliveryGate.Text.Blank

/-!
# Files of variables

A file of variables has an assignment on each line, with comments behind a hash mark. A value may be
quoted and may refer to other variables. Reading stops at the first line that is malformed; a
variable that is set already is never changed.
-/

namespace DeliveryGate

namespace Command

/-- A part of a value: text, or a reference to a variable. -/
inductive Part where
  | text (cs : List Char)
  | reference (name : String)
  deriving DecidableEq

/-- A variable and the parts of its value. -/
structure Assignment where
  name : String
  parts : List Part
  deriving DecidableEq

namespace Assignment

/-! ### Values -/

/-- Where a reader of a value stands. -/
inductive Place where
  | bare
  | single
  | double
  /-- Behind a backslash; the flag says whether inside double quotes. -/
  | escape (quoted : Bool)
  /-- In the name of a reference; the flags say whether inside double quotes, and whether in braces.
  -/
  | reference (quoted braces : Bool) (name : List Char)
  /-- Behind a blank that ended the value. -/
  | ended

/-- The place outside of escapes and references. -/
def ground (quoted : Bool) : Place := if quoted then .double else .bare

/-- Letters and digits of the names in references: all characters beyond ASCII but blanks count. -/
def isNameChar (c : Char) : Bool := c.isAlphanum || (0x80 ≤ c.toNat && !Text.isBlank c)

/-- What stands for an escaped character. -/
def escaped? (c : Char) : Option Char :=
  if c == 'n' then some '\n' else if "\\'\"$ ".toList.contains c then some c else none

/-- Read a value from a place. A reference without braces takes the letter or digits behind the
dollar sign, and the character behind them stands for itself. -/
def parts? : Place → List Char → Option (List Part)
  | .reference false false name, [] => some [.reference (String.ofList name)]
  | .reference _ _ _, [] => none
  | .single, [] => none
  | .double, [] => none
  | .escape true, [] => none
  | _, [] => some []
  | .ended, c :: rest =>
    if c == ' ' || c == '\t' then parts? .ended rest else if c == '#' then some [] else none
  | .escape quoted, c :: rest => do
    let d ← escaped? c
    let parts ← parts? (ground quoted) rest
    some (.text [d] :: parts)
  | .single, c :: rest =>
    if c == '\'' then parts? .bare rest else (parts? .single rest).map (.text [c] :: ·)
  | .reference quoted true name, c :: rest =>
    if c == '}' then
      (parts? (ground quoted) rest).map (.reference (String.ofList name) :: ·)
    else parts? (.reference quoted true (name ++ [c])) rest
  | .reference quoted false name, c :: rest =>
    if isNameChar c then parts? (.reference quoted false (name ++ [c])) rest
    else if c == '{' && name.isEmpty then parts? (.reference quoted true []) rest
    else do
      let parts ← if c == '$' then parts? (.reference quoted false []) rest
        else (parts? (ground quoted) rest).map (.text [c] :: ·)
      some (.reference (String.ofList name) :: parts)
  | .double, c :: rest =>
    if c == '$' then parts? (.reference true false []) rest
    else if c == '"' then parts? .bare rest
    else if c == '\\' then parts? (.escape true) rest
    else (parts? .double rest).map (.text [c] :: ·)
  | .bare, c :: rest =>
    if c == '$' then parts? (.reference false false []) rest
    else if c == '\'' then parts? .single rest
    else if c == '"' then parts? .double rest
    else if c == '\\' then parts? (.escape false) rest
    else if c == ' ' || c == '\t' then parts? .ended rest
    else (parts? .bare rest).map (.text [c] :: ·)

/-! ### Lines -/

/-- A character of the names of variables. -/
def isKeyChar (c : Char) : Bool := c.isAlphanum || c == '_' || c == '.'

/-- The name at the start of a text. -/
def key? (cs : List Char) : Option (List Char × List Char) :=
  if cs.head?.any fun c => c.isAlpha || c == '_' then
    some (cs.takeWhile isKeyChar, Text.trimStart (cs.dropWhile isKeyChar))
  else none

/-- The text behind an equals sign. -/
def afterEquals? : List Char → Option (List Char)
  | '=' :: rest => some (Text.trimStart rest)
  | _ => none

/-- The assignment on a line, `some none` if there is none, or `none` if the line is malformed. The
word `export` may stand in front of the name. -/
def ofLine? (line : List Char) : Option (Option Assignment) :=
  let cs := Text.trim line
  if cs.isEmpty || cs.head? == some '#' then some none
  else do
    let (key, rest) ← key? cs
    let (key, value) ←
      match afterEquals? rest with
      | some value => some (key, value)
      | none =>
        if String.ofList key == "export" then do
          let (key, rest) ← key? rest
          let value ← afterEquals? rest
          some (key, value)
        else none
    let parts ← if value.head? == some '#' then some [] else parts? .bare value
    some (some ⟨String.ofList key, parts⟩)

/-- The assignments on some lines up to the first malformed one. -/
def ofLines : List (List Char) → List Assignment
  | [] => []
  | line :: rest =>
    match ofLine? line with
    | none => []
    | some none => ofLines rest
    | some (some assignment) => assignment :: ofLines rest

/-- The assignments in a text. -/
def ofText (text : String) : List Assignment := ofLines (Text.splitOn '\n' text.toList)

/-! ### Variables -/

/-- The names that an assignment mentions. -/
def names (assignment : Assignment) : List String :=
  assignment.name :: assignment.parts.filterMap fun
    | .text _ => none
    | .reference name => some name

/-- The text of a part; a variable that is not set has none. -/
def expand (env : List (String × String)) : Part → List Char
  | .text cs => cs
  | .reference name => ((env.lookup name).getD "").toList

/-- The variables after an assignment. -/
def assign (env : List (String × String)) (assignment : Assignment) :
    List (String × String) :=
  if (env.lookup assignment.name).isSome then env
  else
    env ++
      [(assignment.name, String.ofList (assignment.parts.flatMap (expand env)))]

/-- The variables after some assignments. -/
def assignAll (env : List (String × String)) (assignments : List Assignment) :
    List (String × String) :=
  assignments.foldl assign env

end Assignment

end Command

end DeliveryGate
