import DeliveryGate.Signature.Sha256
import DeliveryGate.Text.Hex

/-!
# Signatures

The keyed digest (HMAC with SHA-256) that signs a webhook request: the message is the identifier of
the environment, the key one of its API keys.
-/

namespace DeliveryGate

namespace Signature

/-- The key as one block: hashed first if it is longer, then filled up with zeros. -/
def blockKey (key : List UInt8) : List UInt8 :=
  let key := if Sha256.blockSize < key.length then Sha256.digest key else key
  key ++ List.replicate (Sha256.blockSize - key.length) 0

/-- The keyed digest of a message. -/
def hmac (key message : List UInt8) : List UInt8 :=
  let key := blockKey key
  let inner := Sha256.digest (key.map (· ^^^ 0x36) ++ message)
  Sha256.digest (key.map (· ^^^ 0x5c) ++ inner)

/-- The signature of an environment's requests under one of its keys, in hexadecimal. -/
def ofEnvironment (apiKey environmentId : String) : String :=
  Hex.encode (hmac apiKey.toUTF8.toList environmentId.toUTF8.toList)

end Signature

end DeliveryGate
