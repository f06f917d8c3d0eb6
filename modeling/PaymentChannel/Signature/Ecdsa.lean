import PaymentChannel.Address
import PaymentChannel.Hash.Sha256
import PaymentChannel.Signature.Curve

/-!
# Recoverable signatures

* `Ecdsa.Signature` : the numbers `r` and `s`, and the recovery id that tells the signer's key.
* `Ecdsa.sign` : the signature of a digest, with a nonce derived from key and digest.
* `Ecdsa.recover?` : the public key behind a signature.

The second number of a signature made here is at most half of the group order; a signature with
the other choice of it is accepted as well. Recovery ids 2 and 3 stand for a nonce point whose first
coordinate is `r` plus the group order.
-/

namespace PaymentChannel.Ecdsa

open Curve

structure Signature where
  (r s : Amount)
  /-- The parity of the nonce point's second coordinate, plus 2 for a reduced first one. -/
  recoveryId : Nat
  deriving DecidableEq

/-- The candidates for a nonce, each with the state that the next one is derived from. -/
def nextNonce (key value : Bytes) : Bytes × Bytes :=
  let key := hmacSha256 key (value ++ [0])
  (key, hmacSha256 key (hmacSha256 key value))

/-- The first candidate for the nonce, derived from the secret and the digest alone. -/
def firstNonce (secret digest : Bytes) : Bytes × Bytes :=
  let value := List.replicate 32 1
  let key := hmacSha256 (List.replicate 32 0) (value ++ [0] ++ secret ++ digest)
  let value := hmacSha256 key value
  let key := hmacSha256 key (value ++ [1] ++ secret ++ digest)
  let value := hmacSha256 key value
  (key, hmacSha256 key value)

/-- The signature with the given nonce, unless nonce or signature are out of range. -/
def signWith? (secret digest nonce : Nat) : Option Signature := do
  if nonce = 0 ∨ groupOrder ≤ nonce then none
  let (x, y) ← (multiply nonce generator).affine?
  let r := x % groupOrder
  let s := inverse groupOrder nonce * ((digest + r * secret) % groupOrder) % groupOrder
  if r = 0 ∨ s = 0 then none
  let parity := y % 2
  let reduced := if groupOrder ≤ x then 2 else 0
  if groupOrder / 2 < s then
    return ⟨BitVec.ofNat 256 r, BitVec.ofNat 256 (groupOrder - s), (1 - parity) + reduced⟩
  else
    return ⟨BitVec.ofNat 256 r, BitVec.ofNat 256 s, parity + reduced⟩

def signFrom? (secret digest : Nat) : (attempts : Nat) → Bytes × Bytes → Option Signature
  | 0, _ => none
  | attempts + 1, (key, value) =>
    match signWith? secret digest value.toNat with
    | some signature => some signature
    | none => signFrom? secret digest attempts (nextNonce key value)

/-- The signature of a digest. A nonce is out of range with probability below `2 ^ -127`, so that
the first one serves. -/
def sign? (secret : Nat) (digest : Hash) : Option Signature :=
  signFrom? secret digest.bits.toNat 16 (firstNonce (bigEndian 32 secret) digest.bytes)

def publicKey (secret : Nat) : Point := multiply secret generator

/-- The address of a public key, unless it is infinite. -/
def address? (key : Point) : Option Address :=
  key.affine?.map fun (x, y) =>
    Address.ofHash (keccak256 (bigEndian 32 x ++ bigEndian 32 y))

def recover? (digest : Hash) (signature : Signature) : Option Point := do
  let r := signature.r.toNat
  let s := signature.s.toNat
  if r = 0 ∨ groupOrder ≤ r ∨ s = 0 ∨ groupOrder ≤ s ∨ 3 < signature.recoveryId then none
  let x := if 2 ≤ signature.recoveryId then r + groupOrder else r
  let point ← lift? x (signature.recoveryId % 2 == 1)
  let w := inverse groupOrder r
  let u := (groupOrder - digest.bits.toNat % groupOrder) * w % groupOrder
  let v := s * w % groupOrder
  let key := (multiply u generator).add (multiply v point)
  if key.z = 0 then none else some key

def recoverAddress? (digest : Hash) (signature : Signature) : Option Address :=
  (recover? digest signature).bind address?

end PaymentChannel.Ecdsa
