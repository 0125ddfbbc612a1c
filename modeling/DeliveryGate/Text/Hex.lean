/-!
# Hexadecimal text

Bytes as two hexadecimal digits each, in lower case.
-/

namespace DeliveryGate

namespace Hex

/-- The two digits of a byte. -/
def ofByte (b : UInt8) : List Char :=
  [Nat.digitChar (b.toNat / 16), Nat.digitChar (b.toNat % 16)]

/-- The digits of some bytes. -/
def encode (bytes : List UInt8) : String := String.ofList (bytes.flatMap ofByte)

end Hex

end DeliveryGate
