import PaymentChannel.Signature.Ecdsa

/-!
# Keys and signed data

* `PrivateKey` : a secret between zero and the group order.
* `personalDigest` : the hash that is signed for a byte string.
* `PrivateKey.signData` : the 65 bytes `r`, `s`, `v` of a signature of a byte string.
* `recoverSigner` : the address that made such a signature.
-/

namespace PaymentChannel

inductive SigningError where
  | invalidMessage
  deriving DecidableEq

def SigningError.message : SigningError → String
  | invalidMessage => "Message has to be a non-zero 32-bytes slice."

inductive RecoveryError where
  | invalidMessage
  | invalidSignature
  deriving DecidableEq

def RecoveryError.message : RecoveryError → String
  | invalidMessage => "Message has to be a non-zero 32-bytes slice."
  | invalidSignature => "Signature is invalid (check recovery id)."

def signatureLength : Nat := 65

structure PrivateKey where
  secret : Nat
  pos : 0 < secret
  lt : secret < Curve.groupOrder
  deriving DecidableEq

/-- A signature with the number `v` that holds the recovery id and, maybe, the chain. -/
structure Signature where
  (r s : Hash)
  v : Quantity
  deriving DecidableEq

/-- The bytes of `r` and `s` and the last byte of `v`. -/
def Signature.bytes (signature : Signature) : Bytes :=
  signature.r.bytes ++ signature.s.bytes ++ [signature.v.toUInt8]

def personalDigest (data : Bytes) : Hash :=
  keccak256 (0x19 :: asciiBytes "Ethereum Signed Message:\n".toList ++
    asciiBytes (Decimal.ofNat data.length) ++ data)

namespace PrivateKey

def ofBytes (bytes : Bytes) : Except SigningError PrivateKey :=
  if h : bytes.length = 32 ∧ 0 < bytes.toNat ∧ bytes.toNat < Curve.groupOrder then
    .ok ⟨bytes.toNat, h.2.1, h.2.2⟩
  else .error .invalidMessage

def address (key : PrivateKey) : Address :=
  (Ecdsa.address? (Ecdsa.publicKey key.secret)).getD .zero

def describe (key : PrivateKey) : String :=
  "PrivateKey \x7b address: " ++ key.address.text ++ " \x7d"

def signDigest (key : PrivateKey) (digest : Hash) : Except SigningError Ecdsa.Signature :=
  match Ecdsa.sign? key.secret digest with
  | some signature => .ok signature
  | none => .error .invalidMessage

/-- The signature of a message of 32 bytes, whose `v` is 27 above the recovery id. -/
def signMessage (key : PrivateKey) (message : Bytes) : Except SigningError Signature :=
  match Hash.ofBytes? message with
  | none => .error .invalidMessage
  | some digest => (key.signDigest digest).map fun signature =>
    ⟨⟨signature.r⟩, ⟨signature.s⟩, UInt64.ofNat signature.recoveryId + 27⟩

/-- The signature of a message of 32 bytes for a chain, whose `v` is 35 and twice the chain above
the recovery id. -/
def signForChain (key : PrivateKey) (message : Bytes) (chain : Quantity) :
    Except SigningError Signature :=
  match Hash.ofBytes? message with
  | none => .error .invalidMessage
  | some digest => (key.signDigest digest).map fun signature =>
    ⟨⟨signature.r⟩, ⟨signature.s⟩, UInt64.ofNat signature.recoveryId + 35 + chain * 2⟩

def sign (key : PrivateKey) (message : Bytes) : Option Quantity → Except SigningError Signature
  | some chain => key.signForChain message chain
  | none => key.signMessage message

def signData (key : PrivateKey) (data : Bytes) : Except SigningError Bytes :=
  (key.signMessage (personalDigest data).bytes).map Signature.bytes

end PrivateKey

/-- The recovery id that the last byte of a signature stands for: 27 and above count from 27. -/
def recoveryIdOf (v : UInt8) : Nat := if 27 ≤ v then v.toNat - 27 else v.toNat

def Ecdsa.Signature.ofBytes? (bytes : Bytes) : Option Ecdsa.Signature :=
  if bytes.length = signatureLength then
    some ⟨BitVec.ofNat 256 (Bytes.toNat (bytes.take 32)),
      BitVec.ofNat 256 (Bytes.toNat ((bytes.drop 32).take 32)), recoveryIdOf (bytes.getD 64 0)⟩
  else none

def recoverSigner (data signature : Bytes) : Except RecoveryError Address :=
  match (Ecdsa.Signature.ofBytes? signature).bind (Ecdsa.recoverAddress? (personalDigest data)) with
  | some address => .ok address
  | none => .error .invalidSignature

end PaymentChannel
