import DeliveryGate.Yaml.Property
import DeliveryGate.Yaml.Scalar

/-!
# The token stream of a YAML text

`Stream.ofText?` splits a text into tokens. Two things are not marked in the text where they begin:
a block collection, which its indentation shows, and a simple key, which only the colon behind it
shows. Blocks are opened and closed by comparing columns with a stack of indentations; the place
where a simple key may have begun is kept until a colon comes or the key cannot be one any more (it
is limited to one line and to 1024 characters).
-/

namespace DeliveryGate

namespace Yaml

/-- A place where a simple key may have begun. -/
structure KeyPlace where
  /-- Whether something must be a key here, as it starts at the column of a block. -/
  required : Bool
  /-- How many tokens were there before. -/
  token : Nat
  index : Nat
  line : Nat
  column : Nat

/-- The state between two tokens. -/
structure Stream where
  cursor : Cursor
  tokens : Array Token := #[]
  /-- The column of the innermost block, `-1` outside of all. -/
  indent : Int := -1
  /-- The columns of the blocks around it. -/
  outer : List Int := []
  /-- For each open flow collection the place that waits for a colon around it. -/
  flow : List (Option KeyPlace) := []
  /-- The place that waits for a colon at this level. -/
  keyPlace : Option KeyPlace := none
  /-- Whether a simple key may begin here. -/
  keyAllowed : Bool := true

namespace Stream

def inFlow (s : Stream) : Bool := !s.flow.isEmpty

def push (s : Stream) (token : Token) : Stream := { s with tokens := s.tokens.push token }

/-- Put a token in front of those from a place on. -/
def insertAt (s : Stream) (place : Nat) (token : Token) : Stream :=
  { s with tokens := s.tokens.insertIdxIfInBounds place token }

/-- Open a block at a column if it lies inside the innermost one; `place` is where it begins. -/
def openBlock (s : Stream) (column : Nat) (place : Nat) (token : Token) : Stream :=
  if !s.inFlow && s.indent < column then
    { s.insertAt place token with indent := column, outer := s.indent :: s.outer }
  else s

/-- Close the blocks of the stack that lie to the right of a column. -/
def closeBlocksFrom (column : Int) : List Int → Stream → Stream
  | [], s => s
  | outer :: rest, s =>
    if column < s.indent then
      closeBlocksFrom column rest { s.push .blockEnd with indent := outer, outer := rest }
    else s

/-- Close the blocks to the right of a column. -/
def closeBlocks (s : Stream) (column : Int) : Stream :=
  if s.inFlow then s else closeBlocksFrom column s.outer s

/-- Give up the place that waits for a colon, unless there must be a key. -/
def dropKeyPlace? (s : Stream) : Option Stream :=
  match s.keyPlace with
  | none => some s
  | some place => if place.required then none else some { s with keyPlace := none }

/-- Note that a simple key may begin here. -/
def saveKeyPlace? (s : Stream) : Option Stream :=
  if s.keyAllowed then do
    let s ← s.dropKeyPlace?
    let c := s.cursor
    let required := !s.inFlow && s.indent == (c.column : Int)
    some { s with keyPlace := some ⟨required, s.tokens.size, c.index, c.line, c.column⟩ }
  else some s

/-- A place that still can be a key at this cursor; an error if there must be one and cannot. -/
def currentPlace? (cursor : Cursor) : Option KeyPlace → Option (Option KeyPlace)
  | none => some none
  | some place =>
    if place.line < cursor.line || place.index + 1024 < cursor.index then
      if place.required then none else some none
    else some (some place)

/-- Forget the places that cannot be keys any more. -/
def dropStalePlaces? (s : Stream) : Option Stream := do
  let keyPlace ← currentPlace? s.cursor s.keyPlace
  let flow ← s.flow.mapM (currentPlace? s.cursor)
  some { s with keyPlace, flow }

/-- Go to the next token: over blanks, comments and line breaks. A line break outside of flow
collections allows a simple key; where one is allowed there, a tab is no blank. -/
def skipGap : Nat → Stream → Stream
  | 0, s => s
  | fuel + 1, s =>
    let tabs := s.inFlow || !s.keyAllowed
    let cursor := s.cursor.skipWhile fun c => c == ' ' || (tabs && c == '\t')
    let cursor := if cursor.rest.head? == some '#' then cursor.toLineEnd else cursor
    match cursor.rest with
    | c :: _ =>
      if isBreak c then
        skipGap fuel { s with cursor := cursor.skip, keyAllowed := s.keyAllowed || !s.inFlow }
      else { s with cursor }
    | [] => { s with cursor }

/-! ### One token -/

/-- A marker between documents, or a directive: it closes everything. -/
def between? (s : Stream) (token : Token) (cursor : Cursor) : Option Stream := do
  let s ← (s.closeBlocks (-1)).dropKeyPlace?
  some { s.push token with keyAllowed := false, cursor }

def openFlow? (s : Stream) (token : Token) : Option Stream := do
  let s ← s.saveKeyPlace?
  some { s.push token with
    flow := s.keyPlace :: s.flow, keyPlace := none, keyAllowed := true, cursor := s.cursor.skip }

def closeFlow? (s : Stream) (token : Token) : Option Stream := do
  let s ← s.dropKeyPlace?
  let (keyPlace, flow) := match s.flow with
    | [] => (none, [])
    | place :: rest => (place, rest)
  some { s.push token with flow, keyPlace, keyAllowed := false, cursor := s.cursor.skip }

def flowEntry? (s : Stream) : Option Stream := do
  let s ← s.dropKeyPlace?
  some { s.push .flowEntry with keyAllowed := true, cursor := s.cursor.skip }

def blockEntry? (s : Stream) : Option Stream := do
  if !s.inFlow && !s.keyAllowed then none
  let s := s.openBlock s.cursor.column s.tokens.size .blockSequence
  let s ← s.dropKeyPlace?
  some { s.push .blockEntry with keyAllowed := true, cursor := s.cursor.skip }

def key? (s : Stream) : Option Stream := do
  if !s.inFlow && !s.keyAllowed then none
  let s := s.openBlock s.cursor.column s.tokens.size .blockMapping
  let s ← s.dropKeyPlace?
  some { s.push .key with keyAllowed := !s.inFlow, cursor := s.cursor.skip }

/-- A colon: what stands at the waiting place was a key, or else a value without a simple key begins
here. -/
def value? (s : Stream) : Option Stream :=
  match s.keyPlace with
  | some place =>
    let s := (s.insertAt place.token .key).openBlock place.column place.token .blockMapping
    some { s.push .value with keyPlace := none, keyAllowed := false, cursor := s.cursor.skip }
  | none => do
    if !s.inFlow && !s.keyAllowed then none
    let s := s.openBlock s.cursor.column s.tokens.size .blockMapping
    some { s.push .value with keyAllowed := !s.inFlow, cursor := s.cursor.skip }

def property? (s : Stream) (token : Token) (cursor : Cursor) : Option Stream := do
  let s ← s.saveKeyPlace?
  some { s.push token with keyAllowed := false, cursor }

def blockScalar? (s : Stream) (literal : Bool) : Option Stream := do
  let s ← s.dropKeyPlace?
  let (text, cursor) ← block? literal s.indent s.cursor.skip
  let style := if literal then LexemeStyle.literal else .quoted
  some { s.push (.scalar (String.ofList text) style) with keyAllowed := true, cursor }

def quotedScalar? (s : Stream) (quote : Char) : Option Stream := do
  let cursor := s.cursor.skip
  let (text, cursor) ← quoted? quote (cursor.rest.length + 1) [] cursor
  s.property? (.scalar (String.ofList text) .quoted) cursor

def plainScalar? (s : Stream) : Option Stream := do
  let (text, broken, cursor) ←
    plain? s.inFlow (s.indent + 1) (s.cursor.rest.length + 1) {} [] s.cursor
  let s ← s.property? (.scalar (String.ofList text) .plain) cursor
  some { s with keyAllowed := broken }

/-- The characters that start something else than a plain scalar. -/
def isIndicator (c : Char) : Bool :=
  "-?:,[]\x7b\x7d#&*!|>'\"%@\x60".toList.contains c

/-- Whether a plain scalar may start here. -/
def startsPlain (flow : Bool) : List Char → Bool
  | [] => false
  | c :: rest =>
    !(isBlank c || isBreak c || isIndicator c)
      || (c == '-' && !(rest.head?.any isBlank))
      || (!flow && (c == '?' || c == ':') && !atGap rest)

/-- Read the token at the cursor. -/
def token? (s : Stream) (c : Char) (rest : List Char) : Option Stream := do
  let cursor := s.cursor
  if cursor.column == 0 && c == '%' then
    let (token, cursor) ← directive? cursor
    s.between? token cursor
  else if cursor.column == 0 && atMarker '-' cursor.rest then
    s.between? .documentStart (cursor.skipInLine 3)
  else if cursor.column == 0 && atMarker '.' cursor.rest then
    s.between? .documentEnd (cursor.skipInLine 3)
  else if c == '[' then s.openFlow? .flowSequenceStart
  else if c == '{' then s.openFlow? .flowMappingStart
  else if c == ']' then s.closeFlow? .flowSequenceEnd
  else if c == '}' then s.closeFlow? .flowMappingEnd
  else if c == ',' then s.flowEntry?
  else if c == '-' && atGap rest then s.blockEntry?
  else if c == '?' && (s.inFlow || atGap rest) then s.key?
  else if c == ':' && (s.inFlow || atGap rest) then s.value?
  else if c == '*' then
    let (name, cursor) ← name? cursor
    s.property? (.alias name) cursor
  else if c == '&' then
    let (name, cursor) ← name? cursor
    s.property? (.anchor name) cursor
  else if c == '!' then
    let (handle, suffix, cursor) ← tag? s.inFlow cursor
    s.property? (.tag handle suffix) cursor
  else if c == '|' && !s.inFlow then s.blockScalar? true
  else if c == '>' && !s.inFlow then s.blockScalar? false
  else if c == '\'' || c == '"' then s.quotedScalar? c
  else if startsPlain s.inFlow cursor.rest then s.plainScalar?
  else none

/-- Close everything at the end of the text. -/
def finish? (s : Stream) : Option (Array Token) := do
  let s ← (s.closeBlocks (-1)).dropKeyPlace?
  some s.tokens

/-- Read tokens to the end of the text. -/
def run? : Nat → Stream → Option (Array Token)
  | 0, _ => none
  | fuel + 1, s => do
    let s ← (skipGap (s.cursor.rest.length + 1) s).dropStalePlaces?
    let s := s.closeBlocks s.cursor.column
    match s.cursor.rest with
    | [] => s.finish?
    | c :: rest =>
      let s ← s.token? c rest
      run? fuel s

/-- The tokens of a text. -/
def ofText? (text : List Char) : Option (List Token) :=
  if text.all isAllowed then
    let cursor := Cursor.start text
    (run? (cursor.rest.length + 2) { cursor }).map Array.toList
  else none

end Stream

end Yaml

end DeliveryGate
