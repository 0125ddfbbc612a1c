/-!
# Texts as bytes

The bytes of a text in UTF-8, and the text of bytes of which nothing is known but that they should
be text: `ofBytes` never fails and puts a replacement character for every part that is no character.
-/

namespace DeliveryGate

namespace Text

/-- The bytes of a text. -/
def bytes (cs : List Char) : List UInt8 := (String.ofList cs).toUTF8.toList

/-- What stands for bytes that are no character. -/
def replacement : Char := Char.ofNat 0xFFFD

/-- How many bytes follow a leading byte, and the range of the first of them. The ranges leave out
what could be written in fewer bytes, surrogates, and what lies beyond the last code point. -/
def following? (lead : Nat) : Option (Nat × Nat × Nat) :=
  if 0xC2 ≤ lead && lead ≤ 0xDF then some (1, 0x80, 0xBF)
  else if lead = 0xE0 then some (2, 0xA0, 0xBF)
  else if lead = 0xED then some (2, 0x80, 0x9F)
  else if 0xE1 ≤ lead && lead ≤ 0xEF then some (2, 0x80, 0xBF)
  else if lead = 0xF0 then some (3, 0x90, 0xBF)
  else if 0xF1 ≤ lead && lead ≤ 0xF3 then some (3, 0x80, 0xBF)
  else if lead = 0xF4 then some (3, 0x80, 0x8F)
  else none

/-- Read `n` bytes that follow, the first of them in a range: the code point unless one is missing,
and the bytes behind those that fit. -/
def readFollowing (low high : Nat) : Nat → Nat → List UInt8 → Option Nat × List UInt8
  | 0, point, rest => (some point, rest)
  | _ + 1, _, [] => (none, [])
  | n + 1, point, b :: rest =>
    if low ≤ b.toNat && b.toNat ≤ high then
      readFollowing 0x80 0xBF n (64 * point + b.toNat % 64) rest
    else (none, b :: rest)

/-- The characters of UTF-8, of at most so many. -/
def decodeUtf8 : Nat → List UInt8 → List Char
  | 0, _ => []
  | _ + 1, [] => []
  | fuel + 1, b :: rest =>
    let lead := b.toNat
    if lead < 0x80 then Char.ofNat lead :: decodeUtf8 fuel rest
    else
      match following? lead with
      | none => replacement :: decodeUtf8 fuel rest
      | some (n, low, high) =>
        let (point, rest) := readFollowing low high n (lead % (1 <<< (6 - n))) rest
        (point.map Char.ofNat).getD replacement :: decodeUtf8 fuel rest

/-- The 16-bit units of bytes; a last single byte is none. -/
def units16 (bigEndian : Bool) : List UInt8 → List Nat
  | a :: b :: rest =>
    (if bigEndian then 256 * a.toNat + b.toNat else 256 * b.toNat + a.toNat)
      :: units16 bigEndian rest
  | _ => []

/-- The characters of UTF-16. -/
def decodeUtf16 : List Nat → List Char
  | [] => []
  | [u] => [if 0xD800 ≤ u && u ≤ 0xDFFF then replacement else Char.ofNat u]
  | u :: v :: rest =>
    if 0xD800 ≤ u && u ≤ 0xDBFF && 0xDC00 ≤ v && v ≤ 0xDFFF then
      Char.ofNat (0x10000 + 0x400 * (u - 0xD800) + (v - 0xDC00)) :: decodeUtf16 rest
    else
      (if 0xD800 ≤ u && u ≤ 0xDFFF then replacement else Char.ofNat u) :: decodeUtf16 (v :: rest)

/-- The characters of UTF-16 in bytes. -/
def decodeUtf16Bytes (bigEndian : Bool) (bytes : List UInt8) : List Char :=
  decodeUtf16 (units16 bigEndian bytes)
    ++ (if bytes.length % 2 = 0 then [] else [replacement])

/-- The text of some bytes: UTF-8, unless a byte order mark of UTF-16 comes first. The mark does not
belong to the text. -/
def ofBytes : List UInt8 → List Char
  | 0xEF :: 0xBB :: 0xBF :: rest => decodeUtf8 rest.length rest
  | 0xFE :: 0xFF :: rest => decodeUtf16Bytes true rest
  | 0xFF :: 0xFE :: rest => decodeUtf16Bytes false rest
  | bytes => decodeUtf8 bytes.length bytes

end Text

end DeliveryGate
