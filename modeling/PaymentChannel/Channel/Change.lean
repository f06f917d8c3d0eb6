import PaymentChannel.Channel.Basic

/-!
# Steps of a dispute

* `StateChange` : what a participant does to a channel.
* `Event` : the contract call that follows from a step.
-/

namespace PaymentChannel

inductive StateChange where
  /-- Closes the channel with the partner's latest balance proof, if there is one. -/
  | close (sender : Address) (balanceProof : Option BalanceProof)
  | update (sender : Address) (balanceProof : BalanceProof)
  /-- Proves that a lock committed to for the beneficiary was declared obsolete. -/
  | punish (sender : Address) (request : PunishRequest) (lock : Lock)
  | settle (sender : Address)
  deriving DecidableEq

namespace StateChange

def sender : StateChange → Address
  | close sender _ => sender
  | update sender _ => sender
  | punish sender _ _ => sender
  | settle sender => sender

def typeName : StateChange → String
  | close .. => "CloseChannel"
  | update .. => "UpdateBalanceProof"
  | punish .. => "PunishObsoleteUnlock"
  | settle .. => "SettleChannel"

end StateChange

inductive Event where
  | sendClose (block : BlockNumber) (identifier : CanonicalIdentifier) (partner : Address)
      (balanceProof : Option BalanceProof)
  | sendUpdate (block : BlockNumber) (identifier : CanonicalIdentifier) (partner : Address)
      (balanceProof : BalanceProof)
  | sendPunish (block : BlockNumber) (identifier : CanonicalIdentifier) (openBlock : BlockNumber)
      (beneficiary cheater : Address) (lockHash additionalHash : Hash) (cheaterSignature : Bytes)
  | sendSettle (block : BlockNumber) (identifier : CanonicalIdentifier)
      (ourAddress partnerAddress : Address) (settlement : Settlement)
  deriving DecidableEq

namespace Event

def block : Event → BlockNumber
  | sendClose block .. => block
  | sendUpdate block .. => block
  | sendPunish block .. => block
  | sendSettle block .. => block

def typeName : Event → String
  | sendClose .. => "ContractSendChannelClose"
  | sendUpdate .. => "ContractSendChannelUpdateBalanceProof"
  | sendPunish .. => "ContractSendChannelPunishObsoleteUnlock"
  | sendSettle .. => "ContractSendChannelSettle"

end Event

/-! ## JSON forms

A step carries its kind in the member `type`; a call is the only member of an object, under the
name of its kind. -/

instance : Codec StateChange where
  encode
    | change@(.close sender balanceProof) => .object [
        ("type", .string change.typeName),
        ("sender", encode sender),
        ("balance_proof", encode balanceProof)]
    | change@(.update sender balanceProof) => .object [
        ("type", .string change.typeName),
        ("sender", encode sender),
        ("balance_proof", encode balanceProof)]
    | change@(.punish sender request lock) => .object [
        ("type", .string change.typeName),
        ("sender", encode sender),
        ("punish_request", encode request),
        ("lock", encode lock)]
    | change@(.settle sender) => .object [
        ("type", .string change.typeName),
        ("sender", encode sender)]
  decode json := match json.member? "type" with
    | some (.string "CloseChannel") =>
      Fields.run (StateChange.close <$> member "sender" <*> member "balance_proof") json
    | some (.string "UpdateBalanceProof") =>
      Fields.run (StateChange.update <$> member "sender" <*> member "balance_proof") json
    | some (.string "PunishObsoleteUnlock") =>
      Fields.run (StateChange.punish <$> member "sender" <*> member "punish_request"
        <*> member "lock") json
    | some (.string "SettleChannel") => Fields.run (StateChange.settle <$> member "sender") json
    | _ => .error .form

/-- The block at which a call was triggered, in an object of its own. -/
structure Event.Trigger where
  block : BlockNumber

instance : Codec Event.Trigger where
  encode trigger := .object [("triggered_by_block_number", encode trigger.block)]
  decode := Fields.run (Event.Trigger.mk <$> member "triggered_by_block_number")

open Event in
instance : Codec Event where
  encode event := .object [(event.typeName, match event with
    | .sendClose block identifier partner balanceProof => .object [
        ("inner", encode (Trigger.mk block)),
        ("canonical_identifier", encode identifier),
        ("partner", encode partner),
        ("balance_proof", encode balanceProof)]
    | .sendUpdate block identifier partner balanceProof => .object [
        ("inner", encode (Trigger.mk block)),
        ("canonical_identifier", encode identifier),
        ("partner", encode partner),
        ("balance_proof", encode balanceProof)]
    | .sendPunish block identifier openBlock beneficiary cheater lockHash additionalHash
        cheaterSignature => .object [
        ("inner", encode (Trigger.mk block)),
        ("canonical_identifier", encode identifier),
        ("open_block_number", encode openBlock),
        ("beneficiary", encode beneficiary),
        ("cheater", encode cheater),
        ("lock_hash", encode lockHash),
        ("additional_hash", encode additionalHash),
        ("cheater_signature", encode cheaterSignature)]
    | .sendSettle block identifier ourAddress partnerAddress settlement => .object [
        ("inner", encode (Trigger.mk block)),
        ("canonical_identifier", encode identifier),
        ("our_address", encode ourAddress),
        ("partner_address", encode partnerAddress),
        ("settlement", encode settlement)])]
  decode
    | .object [("ContractSendChannelClose", json)] =>
      Fields.run ((fun trigger : Trigger => sendClose trigger.block) <$> member "inner" <*>
        member "canonical_identifier" <*> member "partner" <*> member "balance_proof") json
    | .object [("ContractSendChannelUpdateBalanceProof", json)] =>
      Fields.run ((fun trigger : Trigger => sendUpdate trigger.block) <$> member "inner" <*>
        member "canonical_identifier" <*> member "partner" <*> member "balance_proof") json
    | .object [("ContractSendChannelPunishObsoleteUnlock", json)] =>
      Fields.run ((fun trigger : Trigger => sendPunish trigger.block) <$> member "inner" <*>
        member "canonical_identifier" <*> member "open_block_number" <*>
        member "beneficiary" <*> member "cheater" <*> member "lock_hash" <*>
        member "additional_hash" <*> member "cheater_signature") json
    | .object [("ContractSendChannelSettle", json)] =>
      Fields.run ((fun trigger : Trigger => sendSettle trigger.block) <$> member "inner" <*>
        member "canonical_identifier" <*> member "our_address" <*> member "partner_address" <*>
        member "settlement") json
    | _ => .error .form

end PaymentChannel
