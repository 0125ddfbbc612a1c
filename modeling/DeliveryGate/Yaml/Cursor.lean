/-!
# Reading YAML texts

The characters that YAML tells apart, and a cursor that knows its line and column. Before a text is
read, its line breaks are made alike; a text with a character that YAML does not allow is refused.
-/

namespace DeliveryGate

namespace Yaml

/-- A line break, after all forms but the Unicode separators have become a line feed. -/
def isBreak (c : Char) : Bool := c == '\n' || c.toNat == 0x2028 || c.toNat == 0x2029

/-- A space or a tab. -/
def isBlank (c : Char) : Bool := c == ' ' || c == '\t'

/-- A character of names: an ASCII letter or digit, a hyphen or an underscore. -/
def isWord (c : Char) : Bool := c.isAlphanum || c == '-' || c == '_'

/-- Whether a text may hold this character. -/
def isAllowed (c : Char) : Bool :=
  let n := c.toNat
  n == 9 || n == 10 || n == 13 || (0x20 ≤ n && n ≤ 0x7E) || n == 0x85
    || (0xA0 ≤ n && n ≤ 0xFFFD) || 0x10000 ≤ n

/-- Make the line breaks of a text alike. -/
def unifyBreaks : List Char → List Char
  | '\r' :: '\n' :: rest => '\n' :: unifyBreaks rest
  | c :: rest => (if c == '\r' || c.toNat == 0x85 then '\n' else c) :: unifyBreaks rest
  | [] => []

/-- Whether a text ends here or goes on with a blank or a line break. -/
def atGap : List Char → Bool
  | [] => true
  | c :: _ => isBlank c || isBreak c

/-- Whether a line ends here. -/
def atLineEnd : List Char → Bool
  | [] => true
  | c :: _ => isBreak c

/-- Whether a marker of three characters between documents stands here. -/
def atMarker (marker : Char) : List Char → Bool
  | a :: b :: c :: rest => a == marker && b == marker && c == marker && atGap rest
  | _ => false

/-- The rest of a text and the place where it starts. -/
structure Cursor where
  rest : List Char
  index : Nat
  line : Nat
  column : Nat

namespace Cursor

/-- The cursor behind one character. -/
def skip (cursor : Cursor) : Cursor :=
  match cursor.rest with
  | [] => cursor
  | c :: rest =>
    if isBreak c then ⟨rest, cursor.index + 1, cursor.line + 1, 0⟩
    else ⟨rest, cursor.index + 1, cursor.line, cursor.column + 1⟩

/-- The cursor behind some characters of one line. -/
def skipInLine (cursor : Cursor) (n : Nat) : Cursor :=
  ⟨cursor.rest.drop n, cursor.index + n, cursor.line, cursor.column + n⟩

/-- The cursor behind the characters with a property, which no line break has. -/
def skipWhile (cursor : Cursor) (p : Char → Bool) : Cursor :=
  cursor.skipInLine (cursor.rest.takeWhile p).length

/-- The cursor at the end of the line. -/
def toLineEnd (cursor : Cursor) : Cursor := cursor.skipWhile fun c => !isBreak c

/-- Whether a marker between documents stands at the start of this line. -/
def atDocumentMarker (cursor : Cursor) : Bool :=
  cursor.column == 0 && (atMarker '-' cursor.rest || atMarker '.' cursor.rest)

/-- The cursor at the start of a text: a byte order mark does not belong to it. -/
def start (text : List Char) : Cursor :=
  let body := match text with
    | c :: rest => if c.toNat == 0xFEFF then rest else text
    | [] => []
  ⟨unifyBreaks body, 0, 0, 0⟩

end Cursor

end Yaml

end DeliveryGate
