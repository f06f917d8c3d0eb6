import PaymentChannel.Message
import PaymentChannel.Lock.Tree

/-!
# Signed evidence

* `CanonicalIdentifier` : names a channel across chains and token networks.
* `BalanceProof` : a signed account of what one participant has transferred.
* `PunishRequest` : a signed declaration that a lock is obsolete, with the proof that it is still
  committed to.

Both are packed, signed and recovered alike.
-/

namespace PaymentChannel

/-- The name of a channel across chains and token networks. -/
structure CanonicalIdentifier where
  chain : ChainId
  tokenNetwork : Address
  channel : Hash
  deriving DecidableEq

instance : Codec CanonicalIdentifier where
  encode identifier := .object [
    ("chain_identifier", encode identifier.chain),
    ("token_network_address", encode identifier.tokenNetwork),
    ("channel_identifier", encode identifier.channel)]
  decode :=
    Fields.run (CanonicalIdentifier.mk <$> member "chain_identifier"
      <*> member "token_network_address" <*> member "channel_identifier")

/-- The signer of a message, if it carries a signature that can be recovered. -/
def signerOf (message : Bytes) (signature : Option Bytes) : Except DisputeError Address :=
  match signature with
  | none => .error .signatureMismatch
  | some signature => match recoverSigner message signature with
    | .ok signer => .ok signer
    | .error _ => .error .signatureMismatch

/-! ## Balance proofs -/

/-- What one participant has transferred so far and which locks are pending. -/
structure BalanceProof where
  nonce : Quantity
  transferredAmount : Amount
  locksroot : Hash
  additionalHash : Hash
  identifier : CanonicalIdentifier
  openBlock : BlockNumber
  signature : Option Bytes
  sender : Option Address
  deriving DecidableEq

namespace BalanceProof

/-- The unsigned balance proof. Nonces start at 1 and the locksroot has 32 bytes. -/
def create (identifier : CanonicalIdentifier) (openBlock : BlockNumber) (nonce : Quantity)
    (transferredAmount : Amount) (locksroot : Bytes) (additionalHash : Hash) :
    Except DisputeError BalanceProof :=
  if nonce = 0 then .error (.validation .zeroNonce)
  else if locksroot.length ≠ 32 then .error (.validation (.locksrootLength locksroot.length))
  else .ok ⟨nonce, transferredAmount, .ofBytes locksroot, additionalHash, identifier, openBlock,
    none, none⟩

def pack (proof : BalanceProof) : Bytes :=
  packBalanceProof proof.transferredAmount proof.locksroot proof.nonce proof.additionalHash
    proof.identifier.channel proof.openBlock proof.identifier.chain

def sign (proof : BalanceProof) (key : PrivateKey) : Except SigningError BalanceProof :=
  (key.signData proof.pack).map fun signature =>
    { proof with signature := some signature, sender := some key.address }

def signer (proof : BalanceProof) : Except DisputeError Address :=
  signerOf proof.pack proof.signature

/-- Accepts exactly the given signer. -/
def verify (proof : BalanceProof) (expected : Address) : Except DisputeError Unit := do
  if (← proof.signer) = expected then .ok () else .error .signatureMismatch

end BalanceProof

instance : Codec BalanceProof where
  encode proof := .object [
    ("nonce", encode proof.nonce),
    ("transferred_amount", encode proof.transferredAmount),
    ("locksroot", encode proof.locksroot),
    ("additional_hash", encode proof.additionalHash),
    ("canonical_identifier", encode proof.identifier),
    ("open_block_number", encode proof.openBlock),
    ("signature", encode proof.signature),
    ("sender", encode proof.sender)]
  decode :=
    Fields.run (BalanceProof.mk <$> member "nonce" <*> member "transferred_amount"
      <*> member "locksroot" <*> member "additional_hash" <*> member "canonical_identifier"
      <*> member "open_block_number" <*> member "signature" <*> member "sender")

/-! ## Punish requests -/

/-- The declaration that a lock is obsolete, with the proof that it is still committed to. -/
structure PunishRequest where
  identifier : CanonicalIdentifier
  openBlock : BlockNumber
  beneficiary : Address
  lockHash : Hash
  additionalHash : Hash
  merkleProof : List ProofElement
  signature : Option Bytes
  deriving DecidableEq

namespace PunishRequest

def pack (request : PunishRequest) : Bytes :=
  packObsoleteUnlock request.lockHash request.identifier.channel request.openBlock
    request.identifier.chain request.additionalHash

def sign (request : PunishRequest) (key : PrivateKey) : Except SigningError PunishRequest :=
  (key.signData request.pack).map fun signature => { request with signature := some signature }

def signer (request : PunishRequest) : Except DisputeError Address :=
  signerOf request.pack request.signature

end PunishRequest

instance : Codec PunishRequest where
  encode request := .object [
    ("canonical_identifier", encode request.identifier),
    ("open_block_number", encode request.openBlock),
    ("beneficiary", encode request.beneficiary),
    ("lock_hash", encode request.lockHash),
    ("additional_hash", encode request.additionalHash),
    ("merkle_proof", encode request.merkleProof),
    ("signature", encode request.signature)]
  decode :=
    Fields.run (PunishRequest.mk <$> member "canonical_identifier" <*> member "open_block_number"
      <*> member "beneficiary" <*> member "lock_hash" <*> member "additional_hash"
      <*> member "merkle_proof" <*> member "signature")

end PaymentChannel
