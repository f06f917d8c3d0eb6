import PaymentChannel.Proofs.Json.Lossless

/-!
# What becomes of the number of a chain

The number of a chain has up to 256 bits.  Signed messages carry all of them, and JSON forms carry
the last 64.

* `ChainId.toAmount_ofAmount` : a chain has the number that it was made from.
* `ChainId.decode_encode_ofAmount` : its form reads back as the chain of the last 64 bits.
* `ChainId.narrow_ofAmount_iff` : the chains that go by 64-bit numbers, by their numbers.
* `CanonicalIdentifier.decode_encode` : the name of a channel reads back up to the same loss.
* `ChainId.number_kept` : **what is kept of a number**, and when all of it is.
* `ChainId.number_lost` : a private chain that reads back as a public one.
-/

namespace PaymentChannel

/-! ## Numbers of 64 bits -/

namespace Amount

variable {a : Amount} {q : Quantity}

theorem ofQuantity_lowQuantity (a : Amount) :
    ofQuantity a.lowQuantity = BitVec.ofNat 256 (a.toNat % 2 ^ 64) := by
  rw [ofQuantity, lowQuantity, UInt64.toNat_ofNat']

theorem toQuantity?_eq_some_iff : a.toQuantity? = some q ↔ a = ofQuantity q := by
  rw [toQuantity?, Quantity.ofNat?, Option.ite_none_right_eq_some, Option.some.injEq]
  constructor
  · rintro ⟨fits, rfl⟩
    refine BitVec.eq_of_toNat_eq ?_
    rw [toNat_ofQuantity, UInt64.toNat_ofNat_of_lt' fits]
  · rintro rfl
    rw [toNat_ofQuantity, UInt64.ofNat_toNat]
    exact ⟨q.toNat_lt_size, rfl⟩

theorem toQuantity?_eq_none_iff : a.toQuantity? = none ↔ 2 ^ 64 ≤ a.toNat := by
  rw [toQuantity?, Quantity.ofNat?, ite_eq_right_iff]
  simp only [reduceCtorEq, imp_false, Nat.not_lt]
  exact Iff.rfl

end Amount

/-! ## Chains by their numbers -/

namespace ChainId

theorem ofAmount_ofQuantity (q : Quantity) : ofAmount (.ofQuantity q) = ofQuantity q := by
  rw [ofAmount, Amount.toQuantity?_eq_some_iff.mpr rfl]

/-- A chain has the number that it was made from. -/
@[simp] theorem toAmount_ofAmount (v : Amount) : (ofAmount v).toAmount = v := by
  unfold ofAmount
  split
  · next q h => rw [toAmount_ofQuantity, Amount.toQuantity?_eq_some_iff.mp h]
  · rfl

/-- The form of a chain reads back as the chain of the last 64 bits. -/
theorem decode_encode_ofAmount (v : Amount) : (decode (encode (ofAmount v)) : Decoded ChainId) =
    .ok (ofAmount (BitVec.ofNat 256 (v.toNat % 2 ^ 64))) := by
  rw [decode_encode, toQuantity, toAmount_ofAmount, ← ofAmount_ofQuantity,
    Amount.ofQuantity_lowQuantity]

theorem narrow_ofAmount_iff {v : Amount} : (ofAmount v).Narrow ↔ v.toNat < 2 ^ 64 := by
  constructor
  · rintro ⟨q, h⟩
    obtain rfl : v = .ofQuantity q := by
      rw [← toAmount_ofAmount v, h, toAmount_ofQuantity]
    rw [Amount.toNat_ofQuantity]
    exact q.toNat_lt
  · intro h
    cases hq : v.toQuantity? with
    | none => exact absurd (Amount.toQuantity?_eq_none_iff.mp hq) (Nat.not_le.mpr h)
    | some q =>
      obtain rfl := Amount.toQuantity?_eq_some_iff.mp hq
      exact ⟨q, ofAmount_ofQuantity q⟩

end ChainId

/-! ## Names of channels -/

/-- The name of a channel reads back up to the bits that the form of its chain leaves out. -/
theorem CanonicalIdentifier.decode_encode (identifier : CanonicalIdentifier) :
    decode (encode identifier) =
      .ok { identifier with chain := .ofQuantity identifier.chain.toQuantity } := by
  obtain ⟨chain, tokenNetwork, channel⟩ := identifier
  have named : (member "chain_identifier" : Fields ChainId).Reads
      [("chain_identifier", encode chain), ("token_network_address", encode tokenNetwork),
        ("channel_identifier", encode channel)] (.ofQuantity chain.toQuantity) := by
    rw [Fields.Reads, member, Fields.memberBy]
    simp [chain.decode_encode]
  exact Fields.Reads.run (.seq (.seq (.map _ named) (.member rfl tokenNetwork.lossless))
    (.member rfl channel.lossless))

theorem CanonicalIdentifier.roundTrips_iff {identifier : CanonicalIdentifier} :
    RoundTrips identifier ↔ identifier.chain.Narrow := by
  constructor
  · rintro ⟨same, -⟩
    have chain := congrArg chain (Except.ok.inj (identifier.decode_encode.symm.trans same))
    exact ⟨_, chain.symm⟩
  · exact fun h => (CanonicalIdentifier.lossless h).roundTrips

namespace ChainId

theorem roundTrips_iff {chain : ChainId} : RoundTrips chain ↔ chain.Narrow :=
  ⟨fun h => lossless_iff.mp ⟨h.1, .string _⟩, fun h => (lossless_iff.mpr h).roundTrips⟩

/-- **What is kept of a number.**  The chain that is made from it has this number, and the bytes
that are signed are all 32 bytes of it.  What reads back from JSON is the chain of its last 64 bits,
so that the chain and the names of its channels survive exactly if there are no more. -/
theorem number_kept (v : Amount) :
    (ofAmount v).toAmount = v ∧
    (ofAmount v).bytes = bigEndian 32 v.toNat ∧
    (decode (encode (ofAmount v)) : Decoded ChainId) =
      .ok (ofAmount (BitVec.ofNat 256 (v.toNat % 2 ^ 64))) ∧
    (RoundTrips (ofAmount v) ↔ v.toNat < 2 ^ 64) ∧
    ∀ identifier : CanonicalIdentifier, identifier.chain = ofAmount v →
      (RoundTrips identifier ↔ v.toNat < 2 ^ 64) := by
  refine ⟨toAmount_ofAmount v, ?_, decode_encode_ofAmount v,
    roundTrips_iff.trans narrow_ofAmount_iff, fun identifier named => ?_⟩
  · rw [bytes, toAmount_ofAmount]
    rfl
  · rw [CanonicalIdentifier.roundTrips_iff, named, narrow_ofAmount_iff]

/-- A private chain whose form reads back as a public chain. -/
theorem number_lost : (decode (encode (ofAmount 18446744073709551617)) : Decoded ChainId) =
    .ok mainnet ∧ ofAmount 18446744073709551617 ≠ mainnet := by
  rw [decode_encode_ofAmount]
  decide

end ChainId

end PaymentChannel
