import PaymentChannel.ChainId
import PaymentChannel.Signature.Key

/-!
# Signed messages

* `packBalanceProof` : the bytes signed for a balance proof.
* `packObsoleteUnlock` : the bytes signed to declare an unlock obsolete.

Every field has a fixed width and stands in the order in which the token network contract expects
it. The two kinds differ in length, which `length_packBalanceProof` and
`length_packObsoleteUnlock` state.
-/

namespace PaymentChannel

/-- Transferred amount, locksroot, nonce, additional hash, channel identifier, open block and chain
id, in 32, 32, 8, 32, 32, 8 and 32 bytes. -/
def packBalanceProof (transferredAmount : Amount) (locksroot : Hash) (nonce : Quantity)
    (additionalHash channelIdentifier : Hash) (openBlock : BlockNumber) (chain : ChainId) : Bytes :=
  transferredAmount.bytes ++ locksroot.bytes ++ nonce.bytes ++ additionalHash.bytes ++
    channelIdentifier.bytes ++ openBlock.bytes ++ chain.bytes

/-- Lock hash, channel identifier, open block, chain id and additional hash, in 32, 32, 8, 32 and
32 bytes. -/
def packObsoleteUnlock (lockHash channelIdentifier : Hash) (openBlock : BlockNumber)
    (chain : ChainId) (additionalHash : Hash) : Bytes :=
  lockHash.bytes ++ channelIdentifier.bytes ++ openBlock.bytes ++ chain.bytes ++
    additionalHash.bytes

theorem length_packBalanceProof (transferredAmount : Amount) (locksroot : Hash) (nonce : Quantity)
    (additionalHash channelIdentifier : Hash) (openBlock : BlockNumber) (chain : ChainId) :
    (packBalanceProof transferredAmount locksroot nonce additionalHash channelIdentifier openBlock
      chain).length = 176 := by
  simp [packBalanceProof, Amount.bytes, Quantity.bytes, ChainId.bytes]

theorem length_packObsoleteUnlock (lockHash channelIdentifier : Hash) (openBlock : BlockNumber)
    (chain : ChainId) (additionalHash : Hash) :
    (packObsoleteUnlock lockHash channelIdentifier openBlock chain
      additionalHash).length = 136 := by
  simp [packObsoleteUnlock, Amount.bytes, Quantity.bytes, ChainId.bytes]

end PaymentChannel
