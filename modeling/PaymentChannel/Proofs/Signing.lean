import Mathlib.Data.List.ModifyLast
import PaymentChannel.Proofs.SignedMessage

/-!
# What is signed verifies

The writer of a signature puts 27 above the recovery id and keeps the last byte of the sum; the
reader takes 27 off again if it can, so that it reads a bare recovery id as well.

* `PrivateKey.Recoverable` : what is asked of the curve, that the key's signature of a digest leads
  back to the key.
* `Ecdsa.Signature.ofBytes?_written`, `Ecdsa.Signature.ofBytes?_withBareId_written` : the reader
  finds the parts of a written signature, in front of either form of the recovery id.
* `PrivateKey.signData_authentic` : a signature of a byte string has 65 bytes and recovers to the
  key's address.
* `BalanceProof.SignedBy` : a balance proof that verifies for one address and no other.
* `signed_verifies` : **balance proofs and punish requests that a key has signed** are the same but
  for the signature, and recover to that key; without a signature of 65 bytes none does.
-/

namespace PaymentChannel

variable {key : PrivateKey} {message signature : Bytes}

/-! ## Reading a written signature -/

/-- The curve signs the digest for the key, and recovers the key's address from the digest, the two
numbers of the signature and its recovery id. -/
def PrivateKey.Recoverable (key : PrivateKey) (digest : Hash) : Prop :=
  (Ecdsa.sign? key.secret digest).bind (Ecdsa.recoverAddress? digest) = some key.address

instance (key : PrivateKey) (digest : Hash) : Decidable (key.Recoverable digest) :=
  inferInstanceAs (Decidable (_ = _))

/-- The same signature with the recovery id itself as its last byte. -/
def withBareId (signature : Bytes) : Bytes := signature.modifyLast (· - 27)

theorem recoveryIdOf_marked {id : Nat} (h : id ≤ 3) :
    recoveryIdOf (UInt64.ofNat id + 27).toUInt8 = id := by
  have all : ∀ id ≤ 3, recoveryIdOf (UInt64.ofNat id + 27).toUInt8 = id := by decide
  exact all id h

theorem recoveryIdOf_bare {id : Nat} (h : id ≤ 3) :
    recoveryIdOf ((UInt64.ofNat id + 27).toUInt8 - 27) = id := by
  have all : ∀ id ≤ 3, recoveryIdOf ((UInt64.ofNat id + 27).toUInt8 - 27) = id := by decide
  exact all id h

/-- A recovery id that leads to a key is one of four. -/
theorem Ecdsa.recoveryId_le {digest : Hash} {signature : Ecdsa.Signature} {a : Address}
    (h : recoverAddress? digest signature = some a) : signature.recoveryId ≤ 3 := by
  by_contra outside
  have refused : recover? digest signature = none := by
    simp only [recover?]
    rw [if_pos (by omega)]
    rfl
  rw [recoverAddress?, refused] at h
  cases h

/-- The parts of a signature are found where they were written. -/
theorem Ecdsa.Signature.ofBytes?_append (r s : Hash) (v : UInt8) :
    ofBytes? (r.bytes ++ s.bytes ++ [v]) = some ⟨r.bits, s.bits, recoveryIdOf v⟩ := by
  have bits : ∀ h : Hash, BitVec.ofNat 256 h.bytes.toNat = h.bits := fun h =>
    congrArg Hash.bits h.ofBytes_bytes
  have first : (r.bytes ++ s.bytes ++ [v]).take 32 = r.bytes := by
    simp
  have second : ((r.bytes ++ s.bytes ++ [v]).drop 32).take 32 = s.bytes := by
    simp
  have last : (r.bytes ++ s.bytes ++ [v]).getD 64 0 = v := by
    simp
  rw [ofBytes?, if_pos (by simp [signatureLength]), first, second, last, bits, bits]

namespace Ecdsa.Signature

/-- The bytes that a signature of the curve is written in. -/
def written (signature : Ecdsa.Signature) : Bytes :=
  PaymentChannel.Signature.bytes
    ⟨⟨signature.r⟩, ⟨signature.s⟩, UInt64.ofNat signature.recoveryId + 27⟩

variable {signature : Ecdsa.Signature}

theorem length_written : signature.written.length = 65 := by
  simp [written, PaymentChannel.Signature.bytes]

theorem withBareId_written : withBareId signature.written = Hash.bytes ⟨signature.r⟩ ++
    Hash.bytes ⟨signature.s⟩ ++ [(UInt64.ofNat signature.recoveryId + 27).toUInt8 - 27] := by
  rw [withBareId, written, PaymentChannel.Signature.bytes, List.modifyLast_concat]

/-- The reader finds the parts of a written signature. -/
theorem ofBytes?_written (h : signature.recoveryId ≤ 3) :
    ofBytes? signature.written = some signature := by
  rw [written, PaymentChannel.Signature.bytes, ofBytes?_append, recoveryIdOf_marked h]

/-- The reader finds them also in front of a bare recovery id. -/
theorem ofBytes?_withBareId_written (h : signature.recoveryId ≤ 3) :
    ofBytes? (withBareId signature.written) = some signature := by
  rw [withBareId_written, ofBytes?_append, recoveryIdOf_bare h]

end Ecdsa.Signature

/-! ## Signed byte strings -/

/-- The bytes are a signature of the message that recovers to the address, also with a bare recovery
id. -/
structure Authentic (message signature : Bytes) (a : Address) : Prop where
  length : signature.length = 65
  signer : ∀ bytes ∈ [signature, withBareId signature], signerOf message (some bytes) = .ok a

/-- As an equation of functions, so that nothing is computed when it is checked. -/
theorem PrivateKey.signDigest_def : signDigest = fun key digest =>
    (Ecdsa.sign? key.secret digest).elim (.error .invalidMessage) .ok := by
  delta signDigest
  funext key digest
  generalize Ecdsa.sign? key.secret digest = signature
  cases signature <;> rfl

/-- A byte string is signed by its digest. -/
theorem PrivateKey.signData_eq {signature : Ecdsa.Signature}
    (h : Ecdsa.sign? key.secret (personalDigest message) = some signature) :
    key.signData message = .ok signature.written := by
  rw [signData, signMessage, Hash.ofBytes?_bytes, signDigest_def]
  simp only [h, Option.elim_some]
  rfl

theorem PrivateKey.signData_authentic (h : key.Recoverable (personalDigest message)) :
    ∃ signature, key.signData message = .ok signature ∧
      Authentic message signature key.address := by
  obtain ⟨signature, signed, recovered⟩ := Option.bind_eq_some_iff.mp h
  have one := Ecdsa.recoveryId_le recovered
  have read : ∀ bytes, Ecdsa.Signature.ofBytes? bytes = some signature →
      signerOf message (some bytes) = .ok key.address := fun bytes h =>
    signerOf_eq_ok_iff.mpr ⟨bytes, rfl, by rw [h, Option.bind_some, recovered]⟩
  refine ⟨signature.written, signData_eq signed, Ecdsa.Signature.length_written, ?_⟩
  refine List.forall_mem_cons.mpr ⟨?_, List.forall_mem_singleton.mpr ?_⟩
  · exact read _ (Ecdsa.Signature.ofBytes?_written one)
  · exact read _ (Ecdsa.Signature.ofBytes?_withBareId_written one)

/-- There is no signature, or it has not the length of one. -/
def Malformed (signature : Option Bytes) : Prop := ∀ bytes ∈ signature, bytes.length ≠ 65

theorem signerOf_malformed {signature : Option Bytes} (h : Malformed signature) :
    signerOf message signature = .error .signatureMismatch := by
  cases signature with
  | none => rfl
  | some bytes =>
    have unread : Ecdsa.Signature.ofBytes? bytes = none := if_neg (h bytes rfl)
    simp [signerOf, recoverSigner, unread]

/-! ## Balance proofs and punish requests -/

/-- The balance proof recovers to the address, and verifies for it and for no other. -/
structure BalanceProof.SignedBy (proof : BalanceProof) (a : Address) : Prop where
  signer : proof.signer = .ok a
  verify (b : Address) : proof.verify b = if b = a then .ok () else .error .signatureMismatch

theorem BalanceProof.SignedBy.of_signer {proof : BalanceProof} {a : Address}
    (h : proof.signer = .ok a) : proof.SignedBy a where
  signer := h
  verify b := by
    rw [BalanceProof.verify, h]
    simp only [eq_comm (a := b)]
    rfl

theorem BalanceProof.verify_error {proof : BalanceProof} {e : DisputeError}
    (h : proof.signer = .error e) (a : Address) : proof.verify a = .error e := by
  rw [verify, h]
  rfl

/-- **What is signed verifies.**  If the curve recovers the key from its signatures of the digests,
a signed balance proof and a signed punish request are as before but for the signature of 65 bytes
and the sender, and recover to the key's address, with either form of the recovery id; the balance
proof verifies for that address and no other.  Without a signature of 65 bytes nothing recovers. -/
theorem signed_verifies (key : PrivateKey) :
    (∀ proof : BalanceProof, key.Recoverable (personalDigest proof.pack) →
      ∃ signature, signature.length = 65 ∧ proof.sign key =
          .ok { proof with signature := some signature, sender := some key.address } ∧
        ∀ bytes ∈ [signature, withBareId signature], BalanceProof.SignedBy
          { proof with signature := some bytes, sender := some key.address } key.address) ∧
    (∀ request : PunishRequest, key.Recoverable (personalDigest request.pack) →
      ∃ signature, signature.length = 65 ∧
        request.sign key = .ok { request with signature := some signature } ∧
        ∀ bytes ∈ [signature, withBareId signature],
          PunishRequest.signer { request with signature := some bytes } = .ok key.address) ∧
    (∀ proof : BalanceProof, Malformed proof.signature →
      proof.signer = .error .signatureMismatch ∧
        ∀ a, proof.verify a = .error .signatureMismatch) ∧
    ∀ request : PunishRequest, Malformed request.signature →
      request.signer = .error .signatureMismatch := by
  refine ⟨fun proof h => ?_, fun request h => ?_, fun proof h => ?_, fun request h => ?_⟩
  · obtain ⟨signature, signed, authentic⟩ := PrivateKey.signData_authentic h
    refine ⟨signature, authentic.length, by rw [BalanceProof.sign, signed]; rfl, ?_⟩
    exact fun bytes either => .of_signer (authentic.signer bytes either)
  · obtain ⟨signature, signed, authentic⟩ := PrivateKey.signData_authentic h
    refine ⟨signature, authentic.length, by rw [PunishRequest.sign, signed]; rfl, ?_⟩
    exact fun bytes either => authentic.signer bytes either
  · have mismatch : proof.signer = .error .signatureMismatch := signerOf_malformed h
    exact ⟨mismatch, BalanceProof.verify_error mismatch⟩
  · exact signerOf_malformed h

namespace Sample

/-- The key of the second end. -/
def secondKey : PrivateKey := ⟨2, by decide, by decide⟩

/-- The curve recovers the second end's key from its signatures of a balance proof and of a punish
request. -/
theorem signed_verifies_sample :
    secondKey.Recoverable (personalDigest proof.pack) ∧
    secondKey.Recoverable (personalDigest request.pack) ∧
    (∃ signature, signature.length = 65 ∧ proof.sign secondKey =
        .ok { proof with signature := some signature, sender := some secondKey.address } ∧
      ∀ bytes ∈ [signature, withBareId signature], BalanceProof.SignedBy
        { proof with signature := some bytes, sender := some secondKey.address }
        secondKey.address) ∧
    ∃ signature, signature.length = 65 ∧
      request.sign secondKey = .ok { request with signature := some signature } ∧
      ∀ bytes ∈ [signature, withBareId signature],
        PunishRequest.signer { request with signature := some bytes } = .ok secondKey.address := by
  have recoverable : secondKey.Recoverable (personalDigest proof.pack) := by decide +kernel
  have recoverable' : secondKey.Recoverable (personalDigest request.pack) := by decide +kernel
  exact ⟨recoverable, recoverable', (signed_verifies secondKey).1 proof recoverable,
    (signed_verifies secondKey).2.1 request recoverable'⟩

end Sample

end PaymentChannel
