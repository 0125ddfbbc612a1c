import DeliveryGate.Number.Reading
import DeliveryGate.Text.Blank
import DeliveryGate.Text.Utf8

/-!
# Hosts of addresses

Which texts can be the host of an address. A host whose last label is a number must be an IPv4
address, one in brackets an IPv6 address. Names are checked for the characters that no name may
contain; letters beyond ASCII are accepted as they are.
-/

namespace DeliveryGate

namespace Http

/-- Why a text is not the address of anything. -/
inductive UrlFault where
  | relative
  | emptyHost
  | badService
  | badIpv4
  | badIpv6
  | badDomain
  | badHostCharacter
  deriving DecidableEq

namespace UrlFault

def message : UrlFault → String
  | .relative => "relative URL without a base"
  | .emptyHost => "empty host"
  | .badService => "invalid port number"
  | .badIpv4 => "invalid IPv4 address"
  | .badIpv6 => "invalid IPv6 address"
  | .badDomain => "invalid international domain name"
  | .badHostCharacter => "invalid domain character"

end UrlFault

namespace Host

/-! ### IPv4 addresses -/

/-- A number of an IPv4 address: hexadecimal, octal or decimal by its first digits. -/
def ipv4Number? (cs : List Char) : Option Nat :=
  let read (base : Nat) (digits : List Char) : Option Nat :=
    if digits.isEmpty then some 0 else Number.ofDigitsIn? base digits
  match cs with
  | [] => none
  | '0' :: 'x' :: digits => read 16 digits
  | '0' :: 'X' :: digits => read 16 digits
  | '0' :: d :: digits => read 8 (d :: digits)
  | digits => read 10 digits

/-- The labels of a name; a point at its end does not start another one. -/
def labels (name : List Char) : List (List Char) :=
  match (Text.splitOn '.' name).reverse with
  | [] :: rest => rest.reverse
  | pieces => pieces.reverse

/-- Whether the last label of a name is a number. -/
def endsInNumber (name : List Char) : Bool :=
  match (labels name).getLast? with
  | none => false
  | some last => (!last.isEmpty && last.all Number.isDigit) || (ipv4Number? last).isSome

/-- Whether the labels are those of an IPv4 address: at most four numbers, the last of which fills
the bytes that the others leave. -/
def isIpv4 (labels : List (List Char)) : Bool :=
  match labels.mapM ipv4Number? with
  | none => false
  | some numbers =>
    match numbers.reverse with
    | [] => false
    | last :: others =>
      others.length ≤ 3 && last < 1 <<< (8 * (4 - others.length)) && others.all (· ≤ 255)

/-! ### IPv6 addresses -/

/-- A decimal number of at most 255 without leading zeros. -/
def isByteText (cs : List Char) : Bool :=
  !cs.isEmpty && cs.all Number.isDigit && (cs.length == 1 || cs.head? ≠ some '0')
    && Number.ofDigits cs ≤ 255

/-- Four such numbers with points between them. -/
def isDotted (cs : List Char) : Bool :=
  let pieces := Text.splitOn '.' cs
  pieces.length == 4 && pieces.all isByteText

/-- Whether the rest of an IPv6 address is well-formed after so many of its eight groups;
`compressed` says whether groups have been left out. -/
def isIpv6Rest : Nat → Nat → Bool → List Char → Bool
  | 0, _, _, _ => false
  | _ + 1, groups, compressed, [] => compressed || groups == 8
  | fuel + 1, groups, compressed, c :: rest =>
    if groups == 8 then false
    else if c == ':' then !compressed && isIpv6Rest fuel (groups + 1) true rest
    else
      let digits := ((c :: rest).take 4).takeWhile fun d => (Number.digitIn? 16 d).isSome
      match (c :: rest).drop digits.length with
      | [] => isIpv6Rest fuel (groups + 1) compressed []
      | '.' :: _ =>
        !digits.isEmpty && groups ≤ 6 && isDotted (c :: rest) && (compressed || groups == 6)
      | ':' :: more => !more.isEmpty && isIpv6Rest fuel (groups + 1) compressed more
      | _ => false

/-- Whether the text between the brackets is an IPv6 address. -/
def isIpv6 (cs : List Char) : Bool :=
  match cs with
  | ':' :: ':' :: rest => isIpv6Rest (cs.length + 1) 1 true rest
  | ':' :: _ => false
  | [] => false
  | [_] => false
  | _ => isIpv6Rest (cs.length + 1) 0 false cs

/-- Check a host in brackets. -/
def checkBrackets (cs : List Char) : Except UrlFault Unit :=
  if cs.getLast? == some ']' && isIpv6 (cs.drop 1).dropLast then .ok () else .error .badIpv6

/-! ### Names -/

/-- Resolve the escapes of a name. -/
def unescape : List UInt8 → List UInt8
  | 0x25 :: a :: b :: rest =>
    match Number.digitIn? 16 (Char.ofNat a.toNat), Number.digitIn? 16 (Char.ofNat b.toNat) with
    | some high, some low => (16 * high + low).toUInt8 :: unescape rest
    | _, _ => 0x25 :: unescape (a :: b :: rest)
  | b :: rest => b :: unescape rest
  | [] => []

/-- The characters that no name contains. -/
def isForbidden (c : Char) : Bool :=
  c.toNat ≤ 0x20 || c.toNat == 0x7F || c == Text.replacement || "%#/:<>?@[\\]^|".toList.contains c

/-- The characters that the host of an address of an unknown scheme does not contain. -/
def isForbiddenAnywhere (c : Char) : Bool :=
  c.toNat == 0 || " #/:<>?@[\\]^|".toList.contains c

/-- Check the host of an address of a scheme with names for hosts. -/
def check (cs : List Char) : Except UrlFault Unit :=
  if cs.head? == some '[' then checkBrackets cs
  else
    match String.fromUTF8? ⟨(unescape (Text.bytes cs)).toArray⟩ with
    | none => .error .badDomain
    | some name =>
      if name.toList.any isForbidden then .error .badDomain
      else if endsInNumber name.toList && !isIpv4 (labels name.toList) then .error .badIpv4
      else .ok ()

/-- Check the host of an address of an unknown scheme. -/
def checkAnywhere (cs : List Char) : Except UrlFault Unit :=
  if cs.head? == some '[' then checkBrackets cs
  else if cs.any isForbiddenAnywhere then .error .badHostCharacter
  else .ok ()

end Host

end Http

end DeliveryGate
