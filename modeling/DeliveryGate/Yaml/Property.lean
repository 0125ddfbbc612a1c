import DeliveryGate.Number.Reading
import DeliveryGate.Yaml.Cursor
import DeliveryGate.Yaml.Token

/-!
# Properties and directives of YAML

Anchors and aliases, tags in their three forms, and the directives in front of a document.
-/

namespace DeliveryGate

namespace Yaml

/-- A text of the characters in front of a cursor, and the cursor behind them. -/
def takeText (cursor : Cursor) (p : Char → Bool) : String × Cursor :=
  (String.ofList (cursor.rest.takeWhile p), cursor.skipWhile p)

/-- Read the name behind the mark of an anchor or an alias. -/
def name? (cursor : Cursor) : Option (String × Cursor) :=
  let (name, after) := takeText cursor.skip isWord
  let ends := match after.rest with
    | [] => true
    | c :: _ =>
      isBlank c || isBreak c || c == '?' || c == ':' || c == ',' || c == ']' || c == '}'
        || c == '%' || c == '@' || c.toNat == 0x60
  if name.isEmpty || !ends then none else some (name, after)

/-! ### Tags -/

/-- A character of a tag. Some more may stand in a tag between angle brackets. -/
def isTagChar (verbatim : Bool) (c : Char) : Bool :=
  isWord c || ";/?:@&=+$.!~*'()".toList.contains c
    || (verbatim && (c == ',' || c == '[' || c == ']'))

/-- The byte that an escape in front of a text gives. -/
def escapedByte? : List Char → Option (Nat × List Char)
  | '%' :: a :: b :: rest => (Number.ofDigitsIn? 16 [a, b]).map fun n => (n, rest)
  | _ => none

/-- How many bytes a character takes whose first byte this is. -/
def byteWidth? (byte : Nat) : Option Nat :=
  if byte < 0x80 then some 1
  else if 0xC0 ≤ byte && byte < 0xE0 then some 2
  else if 0xE0 ≤ byte && byte < 0xF0 then some 3
  else if 0xF0 ≤ byte && byte < 0xF8 then some 4
  else none

/-- The following bytes of an escaped character. -/
def escapedTail? : Nat → Nat → List Char → Option (Nat × List Char)
  | 0, value, cs => some (value, cs)
  | n + 1, value, cs => do
    let (byte, rest) ← escapedByte? cs
    if byte / 64 ≠ 2 then none
    escapedTail? n (64 * value + byte % 64) rest

/-- The character that one or more escapes give. -/
def escapedChar? (cs : List Char) : Option (Char × List Char) := do
  let (byte, rest) ← escapedByte? cs
  let width ← byteWidth? byte
  let lead := if width == 1 then byte else byte % (1 <<< (7 - width))
  let (value, rest) ← escapedTail? (width - 1) lead rest
  if (0xD800 ≤ value && value ≤ 0xDFFF) || 0x10FFFF < value then none
  some (Char.ofNat value, rest)

/-- The characters of a tag, with escapes resolved, and the rest. -/
def tagText? (verbatim : Bool) : Nat → List Char → Option (List Char × List Char)
  | 0, cs => some ([], cs)
  | fuel + 1, cs =>
    match cs with
    | [] => some ([], [])
    | c :: rest =>
      if c == '%' then do
        let (d, rest) ← escapedChar? cs
        let (text, rest) ← tagText? verbatim fuel rest
        some (d :: text, rest)
      else if isTagChar verbatim c then do
        let (text, rest) ← tagText? verbatim fuel rest
        some (c :: text, rest)
      else some ([], cs)

/-- The cursor at a rest of its line. -/
def Cursor.at (cursor : Cursor) (rest : List Char) : Cursor :=
  cursor.skipInLine (cursor.rest.length - rest.length)

/-- Read a tag: its handle and what follows. Between angle brackets it has no handle; a lone
exclamation mark is its own text. -/
def tag? (flow : Bool) (cursor : Cursor) : Option (String × String × Cursor) := do
  let (handle, suffix, after) ←
    match cursor.rest with
    | '!' :: '<' :: rest => do
      let (uri, rest) ← tagText? true rest.length rest
      match rest with
      | '>' :: rest => if uri.isEmpty then none else some ("", String.ofList uri, cursor.at rest)
      | _ => none
    | '!' :: rest => do
      let word := rest.takeWhile isWord
      match rest.dropWhile isWord with
      | '!' :: rest =>
        let (suffix, rest) ← tagText? false rest.length rest
        if suffix.isEmpty then none
        else some ("!" ++ String.ofList word ++ "!", String.ofList suffix, cursor.at rest)
      | rest =>
        let (more, rest) ← tagText? false rest.length rest
        let suffix := String.ofList (word ++ more)
        if suffix.isEmpty then some ("", "!", cursor.at rest)
        else some ("!", suffix, cursor.at rest)
    | _ => none
  if atGap after.rest || (flow && after.rest.head? == some ',') then some (handle, suffix, after)
  else none

/-! ### Directives -/

/-- A number of a version, of at most nine digits. -/
def versionNumber? (cursor : Cursor) : Option (Nat × Cursor) :=
  let digits := cursor.rest.takeWhile Number.isDigit
  if digits.isEmpty || 9 < digits.length then none
  else some (Number.ofDigits digits, cursor.skipInLine digits.length)

/-- The handle that a directive declares. -/
def declaredHandle? (cursor : Cursor) : Option (String × Cursor) :=
  match cursor.rest with
  | '!' :: rest =>
    let word := rest.takeWhile isWord
    match rest.dropWhile isWord with
    | '!' :: rest => some ("!" ++ String.ofList word ++ "!", cursor.at rest)
    | rest => if word.isEmpty then some ("!", cursor.at rest) else none
  | _ => none

/-- What a directive with this name says. -/
def directiveBody? (name : String) (cursor : Cursor) : Option (Token × Cursor) :=
  let cursor := cursor.skipWhile isBlank
  if name == "YAML" then do
    let (major, cursor) ← versionNumber? cursor
    if cursor.rest.head? ≠ some '.' then none
    let (minor, cursor) ← versionNumber? cursor.skip
    some (.version major minor, cursor)
  else if name == "TAG" then do
    let (handle, cursor) ← declaredHandle? cursor
    if !(cursor.rest.head?.any isBlank) then none
    let cursor := cursor.skipWhile isBlank
    let (uri, rest) ← tagText? true cursor.rest.length cursor.rest
    if uri.isEmpty || !atGap rest then none
    else some (.tagHandle handle (String.ofList uri), cursor.at rest)
  else none

/-- Read a directive to the end of its line. -/
def directive? (cursor : Cursor) : Option (Token × Cursor) := do
  let (name, cursor) := takeText cursor.skip isWord
  if name.isEmpty || !atGap cursor.rest then none
  let (token, cursor) ← directiveBody? name cursor
  let cursor := cursor.skipWhile isBlank
  let cursor := if cursor.rest.head? == some '#' then cursor.toLineEnd else cursor
  if !atLineEnd cursor.rest then none
  some (token, cursor.skip)

end Yaml

end DeliveryGate
