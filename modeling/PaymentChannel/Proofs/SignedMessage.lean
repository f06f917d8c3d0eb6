import PaymentChannel.Proofs.ByteForms
import PaymentChannel.Proofs.Lock.Soundness

/-!
# What a signature binds

A signature is made over the hash of a prefix, the decimal length of the message and the message.
The message is a row of fields, each of a fixed width.

The length has as many digits as it needs, so where it ends is not fixed.  But a longer message has
no shorter length, so two rows of digits and bytes that are the same are of the same message.

* `BalanceProof.Agrees`, `PunishRequest.Agrees` : agreement in every field that is packed.
* `BalanceProof.pack_eq_iff`, `PunishRequest.pack_eq_iff` : the packed bytes bind exactly these.
* `personalBytes`, `personalBytes_inj` : the bytes that are hashed for a message, which bind the
  message.  `personalDigest_eq_iff` : so does the hash, unless there is a collision.
* `SignedMessage` : a balance proof or a punish request.
* `SignedMessage.pack_eq_iff` : the packed bytes tell the two kinds apart.
* `SignedMessage.digest_eq_iff` : the hash tells the packed fields and the kind, with the same
  exception.
-/

namespace PaymentChannel

/-- A field of fixed width at the end of a row can be taken off. -/
theorem append_bigEndian_inj {width m n : Nat} {s t : Bytes}
    (h : s ++ bigEndian width m = t ++ bigEndian width n) :
    s = t ∧ bigEndian width m = bigEndian width n :=
  List.append_inj' h (by rw [length_bigEndian, length_bigEndian])

/-! ## Balance proofs -/

namespace BalanceProof

/-- The balance proofs agree in every field that is packed. -/
structure Agrees (p q : BalanceProof) : Prop where
  transferredAmount : p.transferredAmount = q.transferredAmount
  locksroot : p.locksroot = q.locksroot
  nonce : p.nonce = q.nonce
  additionalHash : p.additionalHash = q.additionalHash
  channel : p.identifier.channel = q.identifier.channel
  openBlock : p.openBlock = q.openBlock
  chain : p.identifier.chain.toAmount = q.identifier.chain.toAmount

theorem length_pack (p : BalanceProof) : p.pack.length = 176 := length_packBalanceProof ..

theorem pack_eq_iff {p q : BalanceProof} : p.pack = q.pack ↔ p.Agrees q := by
  rw [pack, pack, packBalanceProof, packBalanceProof]
  constructor
  · intro h
    obtain ⟨h, chain⟩ := append_bigEndian_inj h
    obtain ⟨h, openBlock⟩ := append_bigEndian_inj h
    obtain ⟨h, channel⟩ := append_bigEndian_inj h
    obtain ⟨h, additionalHash⟩ := append_bigEndian_inj h
    obtain ⟨h, nonce⟩ := append_bigEndian_inj h
    obtain ⟨transferredAmount, locksroot⟩ := append_bigEndian_inj h
    exact ⟨Amount.bytes_inj transferredAmount, Hash.bytes_inj locksroot, Quantity.bytes_inj nonce,
      Hash.bytes_inj additionalHash, Hash.bytes_inj channel, Quantity.bytes_inj openBlock,
      Amount.bytes_inj chain⟩
  · intro h
    rw [h.transferredAmount, h.locksroot, h.nonce, h.additionalHash, h.channel, h.openBlock,
      ChainId.bytes, ChainId.bytes, h.chain]

end BalanceProof

/-! ## Punish requests -/

namespace PunishRequest

/-- The punish requests agree in every field that is packed. -/
structure Agrees (p q : PunishRequest) : Prop where
  lockHash : p.lockHash = q.lockHash
  channel : p.identifier.channel = q.identifier.channel
  openBlock : p.openBlock = q.openBlock
  chain : p.identifier.chain.toAmount = q.identifier.chain.toAmount
  additionalHash : p.additionalHash = q.additionalHash

theorem length_pack (p : PunishRequest) : p.pack.length = 136 := length_packObsoleteUnlock ..

theorem pack_eq_iff {p q : PunishRequest} : p.pack = q.pack ↔ p.Agrees q := by
  rw [pack, pack, packObsoleteUnlock, packObsoleteUnlock]
  constructor
  · intro h
    obtain ⟨h, additionalHash⟩ := append_bigEndian_inj h
    obtain ⟨h, chain⟩ := append_bigEndian_inj h
    obtain ⟨h, openBlock⟩ := append_bigEndian_inj h
    obtain ⟨lockHash, channel⟩ := append_bigEndian_inj h
    exact ⟨Hash.bytes_inj lockHash, Hash.bytes_inj channel, Quantity.bytes_inj openBlock,
      Amount.bytes_inj chain, Hash.bytes_inj additionalHash⟩
  · intro h
    rw [h.lockHash, h.channel, h.openBlock, ChainId.bytes, ChainId.bytes, h.chain,
      h.additionalHash]

end PunishRequest

/-! ## The hashed bytes -/

/-- The bytes that are hashed for a message. -/
def personalBytes (data : Bytes) : Bytes :=
  0x19 :: asciiBytes "Ethereum Signed Message:\n".toList ++
    asciiBytes (Decimal.ofNat data.length) ++ data

theorem personalDigest_eq (data : Bytes) : personalDigest data = keccak256 (personalBytes data) :=
  rfl

/-- A larger number has no fewer digits. -/
theorem length_decimal_mono {m n : Nat} (h : m ≤ n) :
    (Decimal.ofNat m).length ≤ (Decimal.ofNat n).length := by
  have positive : 0 < (Decimal.ofNat n).length := Nat.length_toDigits_pos
  refine (Nat.length_toDigits_le_iff (by decide) positive).mpr ?_
  have fits := (Nat.length_toDigits_le_iff (b := 10) (by decide) positive).mp (Nat.le_refl _)
  exact Nat.lt_of_le_of_lt h fits

/-- The hashed bytes bind the message, whatever its length. -/
theorem personalBytes_inj {a b : Bytes} (h : personalBytes a = personalBytes b) : a = b := by
  rw [personalBytes, personalBytes, List.append_assoc, List.append_assoc] at h
  have rest := List.append_cancel_left h
  have total := congrArg List.length rest
  simp only [List.length_append, asciiBytes, List.length_map] at total
  have same : a.length = b.length := by
    by_contra ne
    -- The longer message would have the shorter decimal length.
    rcases Nat.lt_or_gt_of_ne ne with lt | gt
    · have := length_decimal_mono (Nat.le_of_lt lt)
      omega
    · have := length_decimal_mono (Nat.le_of_lt gt)
      omega
  exact (List.append_inj' rest same).2

/-- Two messages have the same digest only if they are the same, or their hashed bytes collide. -/
theorem personalDigest_eq_iff {a b : Bytes} : personalDigest a = personalDigest b ↔
    a = b ∨ Collides [personalBytes a, personalBytes b] := by
  rw [personalDigest_eq, personalDigest_eq, collides_pair_iff]
  constructor
  · intro h
    by_cases same : personalBytes a = personalBytes b
    · exact Or.inl (personalBytes_inj same)
    · exact Or.inr ⟨same, h⟩
  · rintro (same | ⟨-, collision⟩)
    · rw [same]
    · exact collision

/-! ## Both kinds of messages -/

/-- What the participants of a channel sign. -/
inductive SignedMessage where
  | balanceProof (proof : BalanceProof)
  | punishRequest (request : PunishRequest)

namespace SignedMessage

/-- The bytes that are signed. -/
def pack : SignedMessage → Bytes
  | balanceProof proof => proof.pack
  | punishRequest request => request.pack

/-- The messages are of the same kind and agree in every field that is packed. -/
def Agrees : SignedMessage → SignedMessage → Prop
  | balanceProof p, balanceProof q => p.Agrees q
  | punishRequest p, punishRequest q => p.Agrees q
  | _, _ => False

theorem pack_eq_iff {m n : SignedMessage} : m.pack = n.pack ↔ m.Agrees n := by
  have lengths : ∀ (p : BalanceProof) (q : PunishRequest), p.pack ≠ q.pack := by
    intro p q h
    have := congrArg List.length h
    rw [p.length_pack, q.length_pack] at this
    cases this
  cases m with
  | balanceProof p =>
    cases n with
    | balanceProof q => exact BalanceProof.pack_eq_iff
    | punishRequest q => exact ⟨lengths p q, False.elim⟩
  | punishRequest p =>
    cases n with
    | balanceProof q => exact ⟨fun h => lengths q p h.symm, False.elim⟩
    | punishRequest q => exact PunishRequest.pack_eq_iff

/-- **A signature binds every packed field and the kind of the message.**  Two messages have the same
digest only if they are of the same kind and agree in every packed field, or their hashed bytes are
two different strings with the same hash. -/
theorem digest_eq_iff (m n : SignedMessage) :
    personalDigest m.pack = personalDigest n.pack ↔
      m.Agrees n ∨ Collides [personalBytes m.pack, personalBytes n.pack] := by
  rw [personalDigest_eq_iff, pack_eq_iff]

end SignedMessage

end PaymentChannel
