import DeliveryGate.Json.Value
import DeliveryGate.Number.Shortest

/-!
# JSON as text

`Json.compact` writes a value without any blank; `Json.pretty` writes it over several lines with an
indent of two spaces. Strings escape the quote, the backslash and the control characters only.
Objects are written in the order of their fields.
-/

namespace DeliveryGate

namespace Json

/-- Doubles are positional from `1e-5` up to below `1e16` and have a signed exponent elsewhere. -/
def layout : NumberLayout := ⟨-5, 15, ['e'], true⟩

/-- The decimal text of an integer. -/
def renderInt (n : Int) : List Char :=
  if n < 0 then '-' :: Binary64.decimalDigits n.natAbs else Binary64.decimalDigits n.natAbs

/-- One digit of a base up to sixteen, letters in lower case. -/
def hexDigit (n : Nat) : Char := Nat.digitChar n

/-- How a character stands in a string. -/
def escape (c : Char) : List Char :=
  match c with
  | '"' => ['\\', '"']
  | '\\' => ['\\', '\\']
  | '\n' => ['\\', 'n']
  | '\r' => ['\\', 'r']
  | '\t' => ['\\', 't']
  | _ =>
    if c.toNat = 8 then ['\\', 'b']
    else if c.toNat = 12 then ['\\', 'f']
    else if c.toNat < 32 then
      ['\\', 'u', '0', '0', hexDigit (c.toNat / 16), hexDigit (c.toNat % 16)]
    else [c]

/-- A string in quotes. -/
def renderString (s : String) : List Char := '"' :: (s.toList.flatMap escape ++ ['"'])

def renderBool (b : Bool) : List Char :=
  if b then ['t', 'r', 'u', 'e'] else ['f', 'a', 'l', 's', 'e']

mutual

/-- The text of a value without blanks. -/
def render : Json → List Char
  | .null => ['n', 'u', 'l', 'l']
  | .bool b => renderBool b
  | .int n => renderInt n
  | .double x => layout.render x
  | .str s => renderString s
  | .arr [] => ['[', ']']
  | .arr (item :: rest) => '[' :: (render item ++ renderItems rest)
  | .obj [] => ['{', '}']
  | .obj ((key, value) :: rest) =>
    '{' :: (renderString key ++ ':' :: (render value ++ renderFields rest))

/-- The items after the first, each behind a comma, and the closing bracket. -/
def renderItems : List Json → List Char
  | [] => [']']
  | item :: rest => ',' :: (render item ++ renderItems rest)

/-- The fields after the first, each behind a comma, and the closing brace. -/
def renderFields : List (String × Json) → List Char
  | [] => ['}']
  | (key, value) :: rest =>
    ',' :: (renderString key ++ ':' :: (render value ++ renderFields rest))

end

/-- A new line with the indent of this depth. -/
def newLine (depth : Nat) : List Char := '\n' :: List.replicate (2 * depth) ' '

mutual

/-- The text of a value over several lines, which starts at this depth. -/
def renderPretty (depth : Nat) : Json → List Char
  | .arr [] => ['[', ']']
  | .arr (item :: rest) =>
    '[' :: (newLine (depth + 1) ++ renderPretty (depth + 1) item ++ renderPrettyItems depth rest)
  | .obj [] => ['{', '}']
  | .obj ((key, value) :: rest) =>
    '{' :: (newLine (depth + 1) ++ renderString key ++ ':' :: ' ' ::
      (renderPretty (depth + 1) value ++ renderPrettyFields depth rest))
  | value => render value

def renderPrettyItems (depth : Nat) : List Json → List Char
  | [] => newLine depth ++ [']']
  | item :: rest =>
    ',' :: (newLine (depth + 1) ++ renderPretty (depth + 1) item ++ renderPrettyItems depth rest)

def renderPrettyFields (depth : Nat) : List (String × Json) → List Char
  | [] => newLine depth ++ ['}']
  | (key, value) :: rest =>
    ',' :: (newLine (depth + 1) ++ renderString key ++ ':' :: ' ' ::
      (renderPretty (depth + 1) value ++ renderPrettyFields depth rest))

end

/-- The text of a value without blanks. -/
def compact (value : Json) : String := String.ofList (render value)

/-- The text of a value over several lines. -/
def pretty (value : Json) : String := String.ofList (renderPretty 0 value)

end Json

end DeliveryGate
