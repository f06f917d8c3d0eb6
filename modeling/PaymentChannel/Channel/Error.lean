import PaymentChannel.Address

/-!
# Refusals of the dispute rules

* `ChannelStatus` : how far a channel has come on its way from opening to settlement.
* `Violation` : a rule about the form of the evidence that was broken.
* `DisputeError` : why a step of a dispute is refused.
-/

namespace PaymentChannel

inductive ChannelStatus where
  | opened
  | closed
  | updated
  | punished
  | settled
  deriving DecidableEq

namespace ChannelStatus

def text : ChannelStatus → String
  | opened => "opened"
  | closed => "closed"
  | updated => "updated"
  | punished => "punished"
  | settled => "settled"

def ofText? : String → Option ChannelStatus
  | "opened" => some opened
  | "closed" => some closed
  | "updated" => some updated
  | "punished" => some punished
  | "settled" => some settled
  | _ => none

/-- While a channel is closed but not settled, its settlement is disputed. -/
def isUnderDispute : ChannelStatus → Bool
  | closed | updated | punished => true
  | opened | settled => false

end ChannelStatus

instance : Codec ChannelStatus where
  encode status := .string status.text
  decode json := Decoded.ofOption (json.tag?.bind ChannelStatus.ofText?)

inductive Violation where
  | secretMismatch
  | zeroNonce
  | locksrootLength (length : Nat)
  | sameParticipants
  | zeroTimeout
  | alreadyClosed (status : ChannelStatus)
  | notUnderDispute (status : ChannelStatus)
  | notParticipant (address : Address) (channel : Hash)
  | foreignBalanceProof
  | openBlockMismatch (received expected : BlockNumber)
  | missingCloseBlock
  | decreasedAmount
  | foreignPunishRequest
  | lockHashMismatch
  | locksrootMismatch
  | alreadyPunished
  deriving DecidableEq

def Violation.message : Violation → String
  | secretMismatch => "Secret does not match the lock's secrethash"
  | zeroNonce => "Balance proof nonce must be greater than zero"
  | locksrootLength length =>
    "Locksroot must be 32 bytes long, got " ++ Decimal.text length ++ " bytes"
  | sameParticipants => "Channel participants must be different addresses"
  | zeroTimeout => "Settle timeout and punish window must be greater than zero"
  | alreadyClosed status => "Channel is already " ++ status.text
  | notUnderDispute status => "Channel is " ++ status.text ++ ", expected it to be closed"
  | notParticipant address channel =>
    address.text ++ " is not a participant of channel " ++ channel.shortText
  | foreignBalanceProof => "Balance proof does not belong to this channel"
  | openBlockMismatch received expected =>
    "Balance proof open block " ++ received.text ++ " does not match channel open block " ++
      expected.text
  | missingCloseBlock => "Channel is closed but the close block is missing"
  | decreasedAmount => "Transferred amount must not decrease"
  | foreignPunishRequest => "Punish request does not belong to this channel"
  | lockHashMismatch => "Lock does not hash to the punished lock hash"
  | locksrootMismatch => "Merkle proof does not match the recorded locksroot"
  | alreadyPunished => "Lock has already been punished"

inductive DisputeError where
  | validation (violation : Violation)
  | signatureMismatch
  | staleNonce (received recorded : Quantity)
  | noPriorUpdate
  | windowExpired (block windowEnd : BlockNumber)
  | settleTimeoutPending (block settleBlock : BlockNumber)
  | channelFinalized
  | proofNotFound
  deriving DecidableEq

def DisputeError.message : DisputeError → String
  | validation violation => "Validation error: `" ++ violation.message ++ "`"
  | signatureMismatch => "Signature does not match the expected signer"
  | staleNonce received recorded =>
    "Stale nonce " ++ received.text ++ ", last recorded nonce is " ++ recorded.text
  | noPriorUpdate => "No balance proof update was recorded for the beneficiary"
  | windowExpired block windowEnd =>
    "Window expired at block " ++ windowEnd.text ++ ", current block is " ++ block.text
  | settleTimeoutPending _ settleBlock =>
    "Settle timeout has not elapsed, settle is possible from block " ++ settleBlock.text
  | channelFinalized => "Channel is already settled"
  | proofNotFound => "Leaf is not part of the merkle tree"

end PaymentChannel
