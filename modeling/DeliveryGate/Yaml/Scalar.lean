import DeliveryGate.Number.Reading
import DeliveryGate.Yaml.Cursor
import DeliveryGate.Yaml.Token

/-!
# Scalars of YAML

How the three forms of scalars are read: plain, in quotes, and as a block. Between two lines of a
plain or quoted scalar stands a gap: one line break becomes a space, of several the first is
dropped. A block scalar keeps its lines or folds them in the same way, below a common indentation.
-/

namespace DeliveryGate

namespace Yaml

/-! ### Gaps -/

/-- Blanks and line breaks between two words of a scalar. -/
structure Gap where
  /-- The blanks, while there is no line break. -/
  blanks : List Char := []
  /-- Whether there is a line break. -/
  broken : Bool := false
  /-- The first line break, unless it is escaped. -/
  first : Option Char := none
  /-- The line breaks after the first. -/
  more : List Char := []

namespace Gap

/-- What a gap becomes in the text. -/
def text (gap : Gap) : List Char :=
  if !gap.broken then gap.blanks
  else
    match gap.first with
    | none => gap.more
    | some '\n' => if gap.more.isEmpty then [' '] else gap.more
    | some c => c :: gap.more

/-- Read a gap to its end. A tab left of `indent` on a new line is an error. -/
def read? (indent : Int) : Nat → Gap → Cursor → Option (Gap × Cursor)
  | 0, gap, cursor => some (gap, cursor)
  | fuel + 1, gap, cursor =>
    match cursor.rest with
    | [] => some (gap, cursor)
    | c :: _ =>
      if isBlank c then
        if gap.broken then
          if c == '\t' && (cursor.column : Int) < indent then none
          else read? indent fuel gap cursor.skip
        else read? indent fuel { gap with blanks := gap.blanks ++ [c] } cursor.skip
      else if isBreak c then
        let gap :=
          if gap.broken then { gap with more := gap.more ++ [c] }
          else { gap with blanks := [], broken := true, first := some c }
        read? indent fuel gap cursor.skip
      else some (gap, cursor)

end Gap

/-! ### Plain scalars -/

/-- The indicators of flow collections. -/
def isFlowIndicator (c : Char) : Bool :=
  c == ',' || c == '[' || c == ']' || c == '{' || c == '}'

/-- Whether a colon and one of the indicators that may not follow it directly stand here. -/
def atBadColon : List Char → Bool
  | ':' :: c :: _ => isFlowIndicator c || c == '?'
  | _ => false

/-- Whether a plain scalar ends in front of this text. -/
def endsPlain (flow : Bool) : List Char → Bool
  | [] => true
  | c :: rest =>
    isBlank c || isBreak c || (c == ':' && atGap rest) || (flow && isFlowIndicator c)

/-- The characters of a plain scalar up to a gap or its end. -/
def plainWord? (flow : Bool) : List Char → Option (List Char)
  | [] => some []
  | c :: rest =>
    if isBlank c || isBreak c then some []
    else if flow && atBadColon (c :: rest) then none
    else if endsPlain flow (c :: rest) then some []
    else (plainWord? flow rest).map (c :: ·)

/-- Read a plain scalar. `gap` is what stands before the cursor and `text` what comes before it. The
flag says whether the cursor stands behind a line break that is not part of the scalar. -/
def plain? (flow : Bool) (indent : Int) :
    Nat → Gap → List Char → Cursor → Option (List Char × Bool × Cursor)
  | 0, gap, text, cursor => some (text, gap.broken, cursor)
  | fuel + 1, gap, text, cursor =>
    if cursor.atDocumentMarker || cursor.rest.head? == some '#' then
      some (text, gap.broken, cursor)
    else do
      let word ← plainWord? flow cursor.rest
      let after := cursor.skipInLine word.length
      let (text, gap) := if word.isEmpty then (text, gap) else (text ++ gap.text ++ word, {})
      match after.rest with
      | [] => some (text, gap.broken, after)
      | c :: _ =>
        if !(isBlank c || isBreak c) then some (text, gap.broken, after)
        else
          let (gap, after) ← Gap.read? indent after.rest.length gap after
          if !flow && (after.column : Int) < indent then some (text, gap.broken, after)
          else plain? flow indent fuel gap text after

/-! ### Quoted scalars -/

/-- The character of a one-letter escape. -/
def escaped? : Char → Option Char
  | '0' => some (Char.ofNat 0)
  | 'a' => some (Char.ofNat 7)
  | 'b' => some (Char.ofNat 8)
  | 't' => some '\t'
  | '\t' => some '\t'
  | 'n' => some '\n'
  | 'v' => some (Char.ofNat 11)
  | 'f' => some (Char.ofNat 12)
  | 'r' => some '\r'
  | 'e' => some (Char.ofNat 27)
  | ' ' => some ' '
  | '"' => some '"'
  | '/' => some '/'
  | '\\' => some '\\'
  | 'N' => some (Char.ofNat 0x85)
  | '_' => some (Char.ofNat 0xA0)
  | 'L' => some (Char.ofNat 0x2028)
  | 'P' => some (Char.ofNat 0x2029)
  | _ => none

/-- How many digits follow the letter of a numeric escape. -/
def escapeWidth? : Char → Option Nat
  | 'x' => some 2
  | 'u' => some 4
  | 'U' => some 8
  | _ => none

/-- The character of a numeric escape with these digits. -/
def numericEscape? (width : Nat) (cs : List Char) : Option Char := do
  let digits := cs.take width
  if digits.length ≠ width then none
  let n ← Number.ofDigitsIn? 16 digits
  if (0xD800 ≤ n && n ≤ 0xDFFF) || 0x10FFFF < n then none
  some (Char.ofNat n)

/-- The characters of a scalar in double quotes up to a gap, its end or an escaped line break, and
how many characters they take. -/
def doubleWord? : Nat → List Char → Option (List Char × Nat)
  | 0, _ => none
  | _ + 1, [] => some ([], 0)
  | fuel + 1, c :: rest =>
    if isBlank c || isBreak c || c == '"' then some ([], 0)
    else if c == '\\' then
      match rest with
      | [] => none
      | e :: more =>
        if isBreak e then some ([], 0)
        else
          match escapeWidth? e with
          | some width => do
            let d ← numericEscape? width more
            let (word, n) ← doubleWord? fuel (more.drop width)
            some (d :: word, n + 2 + width)
          | none => do
            let d ← escaped? e
            let (word, n) ← doubleWord? fuel more
            some (d :: word, n + 2)
    else do
      let (word, n) ← doubleWord? fuel rest
      some (c :: word, n + 1)

/-- The characters of a scalar in single quotes up to a gap or its end, and how many characters they
take. A quote is written twice. -/
def singleWord : List Char → List Char × Nat
  | [] => ([], 0)
  | '\'' :: '\'' :: rest =>
    let (word, n) := singleWord rest
    ('\'' :: word, n + 2)
  | c :: rest =>
    if isBlank c || isBreak c || c == '\'' then ([], 0)
    else
      let (word, n) := singleWord rest
      (c :: word, n + 1)

/-- Read the rest of a quoted scalar behind its opening quote. -/
def quoted? (quote : Char) : Nat → List Char → Cursor → Option (List Char × Cursor)
  | 0, _, _ => none
  | fuel + 1, text, cursor =>
    if cursor.atDocumentMarker || cursor.rest.isEmpty then none
    else do
      let (word, n) ←
        if quote == '"' then doubleWord? (cursor.rest.length + 1) cursor.rest
        else some (singleWord cursor.rest)
      let text := text ++ word
      let cursor := cursor.skipInLine n
      let (gap, cursor) : Gap × Cursor :=
        match cursor.rest with
        | '\\' :: _ :: _ =>
          if quote == '"' then ({ broken := true }, (cursor.skipInLine 1).skip) else ({}, cursor)
        | _ => ({}, cursor)
      match cursor.rest with
      | [] => none
      | c :: _ =>
        if c == quote then some (text, cursor.skip)
        else
          let (gap, cursor) ← Gap.read? 0 cursor.rest.length gap cursor
          quoted? quote fuel (text ++ gap.text) cursor

/-! ### Block scalars -/

/-- What becomes of the line breaks at the end of a block scalar. -/
inductive Chomping where
  | strip
  | clip
  | keep
  deriving DecidableEq

/-- The header of a block scalar: how its end is treated, and its indentation if it is given. -/
def blockHeader? (cs : List Char) : Option (Chomping × Nat × List Char) :=
  let chomping : List Char → Option (Chomping × List Char)
    | '+' :: rest => some (.keep, rest)
    | '-' :: rest => some (.strip, rest)
    | _ => none
  let increment : List Char → Option (Nat × List Char)
    | c :: rest =>
      match Number.digit? c with
      | some 0 => none
      | some n => some (n, rest)
      | none => some (0, c :: rest)
    | [] => some (0, [])
  match chomping cs with
  | some (mode, rest) => (increment rest).map fun (n, rest) => (mode, n, rest)
  | none => do
    let (n, rest) ← increment cs
    if n == 0 then some (.clip, 0, rest)
    else
      match chomping rest with
      | some (mode, rest) => some (mode, n, rest)
      | none => some (.clip, n, rest)

/-- The empty lines in front of a line of a block scalar, up to its indentation; `widest` is the
greatest column seen. With indentation zero it is not known yet. -/
def blockBreaks? (indent : Nat) :
    Nat → Nat → List Char → Cursor → Option (List Char × Nat × Cursor)
  | 0, widest, breaks, cursor => some (breaks, widest, cursor)
  | fuel + 1, widest, breaks, cursor =>
    let spaces := (cursor.rest.takeWhile (· == ' ')).length
    let cursor :=
      cursor.skipInLine (if indent == 0 then spaces else min spaces (indent - cursor.column))
    let widest := max widest cursor.column
    match cursor.rest with
    | [] => some (breaks, widest, cursor)
    | c :: _ =>
      if c == '\t' && (indent == 0 || cursor.column < indent) then none
      else if isBreak c then blockBreaks? indent fuel widest (breaks ++ [c]) cursor.skip
      else some (breaks, widest, cursor)

/-- The lines of a block scalar. `lastBreak` ended the line before, `breaks` are the empty lines
since then, and `lastBlank` says whether the line before started with a blank. -/
def blockLines? (literal : Bool) (indent : Nat) :
    Nat → List Char → List Char → List Char → Bool → Cursor →
      Option (List Char × List Char × List Char × Cursor)
  | 0, text, lastBreak, breaks, _, cursor => some (text, lastBreak, breaks, cursor)
  | fuel + 1, text, lastBreak, breaks, lastBlank, cursor =>
    match cursor.rest with
    | [] => some (text, lastBreak, breaks, cursor)
    | c :: _ =>
      if cursor.column ≠ indent then some (text, lastBreak, breaks, cursor)
      else do
        let blank := isBlank c
        let joint :=
          if !literal && lastBreak.head? == some '\n' && !lastBlank && !blank then
            if breaks.isEmpty then [' '] else []
          else lastBreak
        let line := cursor.rest.takeWhile fun c => !isBreak c
        let atEnd := cursor.toLineEnd
        let newBreak := atEnd.rest.take 1
        let (newBreaks, _, next) ← blockBreaks? indent (atEnd.rest.length + 1) 0 [] atEnd.skip
        blockLines? literal indent fuel (text ++ joint ++ breaks ++ line) newBreak newBreaks blank
          next

/-- Read a block scalar behind its indicator, inside a block of this indentation. -/
def block? (literal : Bool) (outer : Int) (cursor : Cursor) : Option (List Char × Cursor) := do
  let (mode, increment, rest) ← blockHeader? cursor.rest
  let cursor := cursor.skipInLine (cursor.rest.length - rest.length)
  let cursor := cursor.skipWhile isBlank
  let cursor := if cursor.rest.head? == some '#' then cursor.toLineEnd else cursor
  if !atLineEnd cursor.rest then none
  let cursor := cursor.skip
  let given : Nat := if increment == 0 then 0 else increment + outer.toNat
  let fuel := cursor.rest.length + 1
  let (breaks, widest, cursor) ← blockBreaks? given fuel 0 [] cursor
  let indent := if given == 0 then max widest (max (outer + 1).toNat 1) else given
  let (text, lastBreak, breaks, cursor) ←
    blockLines? literal indent fuel [] [] breaks false cursor
  some (text ++ (if mode = .strip then [] else lastBreak) ++ (if mode = .keep then breaks else []),
    cursor)

end Yaml

end DeliveryGate
