import DeliveryGate.Number.Reading

/-!
# Scalars

`Scalar` is a scalar whose type is settled. `Lexeme` is one whose type depends on the place where it
stands: the text of a YAML scalar with its style and tag. A text field takes the text of any lexeme;
elsewhere a plain lexeme is what it looks like (null, a boolean, a number, else a string), a quoted
one is a string, and a tag of the core schema asks for one type.
-/

namespace DeliveryGate

/-- A scalar of a settled type. -/
inductive Scalar where
  | null
  | bool (b : Bool)
  | int (n : Int)
  | double (x : Binary64)
  | str (s : String)
  deriving DecidableEq

/-- How a lexeme is written. -/
inductive LexemeStyle where
  | plain
  | literal
  | quoted
  deriving DecidableEq

/-- The tag of a node. -/
inductive Tag where
  | untagged
  | bool
  | int
  | float
  | null
  /-- Any other tag of the shared schemas; it asks for nothing. -/
  | standard
  /-- A tag of the document's own, which names a variant. -/
  | custom (name : String)
  deriving DecidableEq

/-- A scalar as it is written. -/
structure Lexeme where
  text : String
  style : LexemeStyle
  tag : Tag
  deriving DecidableEq

namespace Lexeme

/-- The texts that stand for null. -/
def isNullWord (text : String) : Bool :=
  text == "null" || text == "Null" || text == "NULL" || text == "~"

/-- The texts that stand for a boolean. -/
def boolWord? (text : String) : Option Bool :=
  if text == "true" || text == "True" || text == "TRUE" then some true
  else if text == "false" || text == "False" || text == "FALSE" then some false
  else none

/-- Several digits of which the first is a zero, with an optional sign: such a text is no number. -/
def hasLeadingZero (cs : List Char) : Bool :=
  let digits := (Number.splitSign cs).2
  1 < digits.length && digits.head? == some '0' && digits.all Number.isDigit

/-- The digits of an integer, behind the mark of their base if it is not ten. -/
def magnitude? : List Char → Option Nat
  | '0' :: 'x' :: digits => Number.ofDigitsIn? 16 digits
  | '0' :: 'o' :: digits => Number.ofDigitsIn? 8 digits
  | '0' :: 'b' :: digits => Number.ofDigitsIn? 2 digits
  | digits => Number.ofDigitsIn? 10 digits

/-- The integer that a text spells, of any size. -/
def integer? (text : String) : Option Int :=
  let cs := text.toList
  if hasLeadingZero cs then none
  else
    let (negative, body) := Number.splitSign cs
    (magnitude? body).map fun n => if negative then -(n : Int) else n

/-- The double that a text spells: a decimal, or a word behind a point. -/
def double? (text : String) : Option Binary64 :=
  let positive := match text.toList with
    | '+' :: rest => rest
    | cs => cs
  let word := String.ofList positive
  if word == ".inf" || word == ".Inf" || word == ".INF" then some (Binary64.infinity false)
  else if text == "-.inf" || text == "-.Inf" || text == "-.INF" then some (Binary64.infinity true)
  else if text == ".nan" || text == ".NaN" || text == ".NAN" then some Binary64.nan
  else
    match text.toList, positive with
    | '+' :: _, '+' :: _ => none
    | '+' :: _, '-' :: _ => none
    | _, body => (Number.double? body).filter Binary64.isFinite

/-- A number that needs more than 64 bits and not more than 128 is no value. -/
def ofInteger? (n : Int) : Option Scalar :=
  if -0x8000000000000000 ≤ n && n < 0x10000000000000000 then some (.int n) else none

/-- Whether an integer fits 128 bits, signed or unsigned. -/
def isDoubleWord (n : Int) : Bool :=
  -0x80000000000000000000000000000000 ≤ n && n < 0x100000000000000000000000000000000

/-- What a plain text looks like; `none` for an integer between 64 and 128 bits. -/
def plainScalar? (text : String) : Option Scalar :=
  if text.isEmpty || isNullWord text then some .null
  else
    match boolWord? text with
    | some b => some (.bool b)
    | none =>
      match (integer? text).filter isDoubleWord with
      | some n => ofInteger? n
      | none =>
        if hasLeadingZero text.toList then some (.str text)
        else
          match double? text with
          | some x => some (.double x)
          | none => some (.str text)

/-- The scalar that a lexeme denotes where its place does not ask for a type. -/
def resolve? (l : Lexeme) : Option Scalar :=
  match l.tag with
  | .untagged => if l.style = .plain then plainScalar? l.text else some (.str l.text)
  | .bool => (boolWord? l.text).map .bool
  | .int => ((integer? l.text).filter isDoubleWord).bind ofInteger?
  | .float => (double? l.text).map .double
  | .null => if isNullWord l.text then some .null else none
  | .standard => some (.str l.text)
  | .custom _ => none

/-- Whether nothing is written: such a lexeme stands for an empty list or record. -/
def isBlank (l : Lexeme) : Bool := l.style = .plain && l.text.isEmpty

/-- The boolean that a lexeme denotes in the place of one. -/
def flag? (l : Lexeme) : Option Bool :=
  if l.style = .plain || (l.style = .literal && l.tag = .bool) then boolWord? l.text else none

/-- Whether an optional field with this lexeme is unset; `none` if that cannot be told. -/
def isAbsent? (l : Lexeme) : Option Bool :=
  if l.style ≠ .plain then some false
  else
    match l.tag with
    | .untagged => some (l.text.isEmpty || isNullWord l.text)
    | .null => if isNullWord l.text then some true else none
    | _ => some false

/-- The name of a variant that a lexeme denotes: its text, or its own tag on nothing or null. -/
def variant? (l : Lexeme) : Option String :=
  match l.tag with
  | .custom name =>
    if l.style = .plain && (l.text.isEmpty || isNullWord l.text) then some name else none
  | _ => some l.text

end Lexeme

end DeliveryGate
