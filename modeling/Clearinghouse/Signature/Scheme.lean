/-
# Signing and verifying

A key pair grows from a seed of thirty-two bytes: the first half of the seed's
digest becomes the secret multiplier, the second half blinds the signatures. A
signature is a point and a number. It is accepted when its number is reduced and
the point it promises is the one that the key, the message and the number give;
the comparison is one of bytes, so only the reduced form of a point is accepted.
-/

import Clearinghouse.Signature.Curve
import Clearinghouse.Signature.Digest

namespace Clearinghouse.Signature

/-- A public key: the bytes as received and the point they stand for. -/
structure PublicKey where
  bytes : List UInt8
  point : Point

/-- Reads a public key of thirty-two bytes. -/
def PublicKey.ofBytes? (bytes : List UInt8) : Option PublicKey :=
  (Point.ofBytes? bytes).map fun point => ⟨bytes, point⟩

/-- A key pair by its seed. -/
structure KeyPair where
  seed : List UInt8

namespace KeyPair

/-- The multiplier of a key pair: a multiple of eight between `2 ^ 254` and
`2 ^ 255`. -/
def multiplier (k : KeyPair) : Nat :=
  let n := natOfBytes ((Digest.sum k.seed).take 32)
  n % Nat.pow 2 254 / 8 * 8 + Nat.pow 2 254

/-- What keeps the signatures of a key pair apart. -/
def blinding (k : KeyPair) : List UInt8 := (Digest.sum k.seed).drop 32

/-- The bytes of the public key. -/
def publicBytes (k : KeyPair) : List UInt8 := (Point.base.times k.multiplier).toBytes

end KeyPair

/-- The number a signature is bound to: a digest of its point, the key and the
message. -/
def challenge (point key message : List UInt8) : Nat :=
  natOfBytes (Digest.sum (point ++ key ++ message)) % groupOrder

/-- The signature of a message: sixty-four bytes. -/
def KeyPair.sign (k : KeyPair) (message : List UInt8) : List UInt8 :=
  let nonce := natOfBytes (Digest.sum (k.blinding ++ message)) % groupOrder
  let point := (Point.base.times nonce).toBytes
  let number := (challenge point k.publicBytes message * k.multiplier + nonce) % groupOrder
  point ++ bytesOfNat 32 number

/-- The signature belongs to the message and the key. -/
def PublicKey.verify (key : PublicKey) (message signature : List UInt8) : Bool :=
  if signature.length = 64 then
    let point := signature.take 32
    let number := natOfBytes (signature.drop 32)
    number < groupOrder &&
      ((Point.base.times number).add
        (key.point.neg.times (challenge point key.bytes message))).toBytes == point
  else false

end Clearinghouse.Signature
