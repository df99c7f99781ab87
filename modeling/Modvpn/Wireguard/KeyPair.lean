/-
# Key pairs

A private key is random but for a few bits, and its public key comes from the curve.
-/

import Modvpn.Wireguard.Curve25519
import Modvpn.Wireguard.Key

namespace Modvpn.Wireguard

namespace Key

/-- The bits that every private key has in common. -/
def clamp (privateKey : List JavaByte) : List JavaByte :=
  let privateKey := privateKey.modify 0 (· &&& 248)
  let privateKey := privateKey.modify 31 (· &&& 127)
  privateKey.modify 31 (· ||| 64)

/-- `nextBytes` is what the random generator fills the array with. -/
def generatePrivateKey (nextBytes : Key) : Key where
  bytes := clamp nextBytes.bytes
  length_bytes := by simp [clamp, nextBytes.length_bytes]

def generatePublicKey (privateKey : Key) : Key where
  bytes := Curve25519.eval privateKey.bytes
  length_bytes := by simp [Curve25519.eval, Format.length]

end Key

structure KeyPair where
  privateKey : Key
  publicKey : Key

/-- A key pair from an existing private key. -/
def KeyPair.ofPrivateKey (privateKey : Key) : KeyPair where
  privateKey
  publicKey := Key.generatePublicKey privateKey

/-- A key pair from a new private key. -/
def KeyPair.generate (nextBytes : Key) : KeyPair := .ofPrivateKey (.generatePrivateKey nextBytes)

end Modvpn.Wireguard
