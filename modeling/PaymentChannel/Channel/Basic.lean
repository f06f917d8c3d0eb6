import PaymentChannel.Evidence

/-!
# Channels

* `Participant` : one end of a channel with the evidence recorded against it.
* `Channel` : the state of a channel in a dispute.
* `Channel.create` : a freshly opened channel.
* `Channel.status`, `Channel.settleTimeoutEnd`, `Channel.capacity` : what the state says.
-/

namespace PaymentChannel

inductive TransactionOutcome where
  | success
  | failure
  deriving DecidableEq

structure TransactionStatus where
  startedBlock : Option BlockNumber
  finishedBlock : Option BlockNumber
  outcome : Option TransactionOutcome
  deriving DecidableEq

namespace TransactionStatus

def succeeded (block : BlockNumber) : TransactionStatus := ⟨some block, some block, some .success⟩

def isSuccess (status : TransactionStatus) : Bool := status.outcome = some .success

end TransactionStatus

structure Punishment where
  beneficiary : Address
  cheater : Address
  lockHash : Hash
  locksroot : Hash
  amount : Amount
  block : BlockNumber
  deriving DecidableEq

structure Settlement where
  ourTransferredAmount : Amount
  ourLocksroot : Hash
  ourBalance : Amount
  partnerTransferredAmount : Amount
  partnerLocksroot : Hash
  partnerBalance : Amount
  deriving DecidableEq

structure Participant where
  address : Address
  deposit : Amount
  /-- The latest balance proof that this participant signed. -/
  balanceProof : Option BalanceProof
  /-- The block at which an update recorded the balance proof. -/
  updateBlock : Option BlockNumber
  deriving DecidableEq

namespace Participant

def fresh (address : Address) (deposit : Amount) : Participant := ⟨address, deposit, none, none⟩

def transferredAmount (participant : Participant) : Amount :=
  (participant.balanceProof.map (·.transferredAmount)).getD 0

def locksroot (participant : Participant) : Hash :=
  (participant.balanceProof.map (·.locksroot)).getD emptyLocksroot

end Participant

structure Channel where
  identifier : CanonicalIdentifier
  openBlock : BlockNumber
  settleTimeout : BlockCount
  punishWindow : BlockCount
  ours : Participant
  partner : Participant
  closingParticipant : Option Address
  closeTransaction : Option TransactionStatus
  updateTransaction : Option TransactionStatus
  settleTransaction : Option TransactionStatus
  punishments : List Punishment
  settlement : Option Settlement
  deriving DecidableEq

namespace Channel

/-- An opened channel between two different participants, with timeouts above zero. -/
def create (identifier : CanonicalIdentifier) (openBlock : BlockNumber)
    (ours partner : Participant) (settleTimeout punishWindow : BlockCount) :
    Except DisputeError Channel :=
  if ours.address = partner.address then .error (.validation .sameParticipants)
  else if settleTimeout = 0 ∨ punishWindow = 0 then .error (.validation .zeroTimeout)
  else .ok {
    identifier, openBlock, settleTimeout, punishWindow, ours, partner
    closingParticipant := none
    closeTransaction := none
    updateTransaction := none
    settleTransaction := none
    punishments := []
    settlement := none }

def status (channel : Channel) : ChannelStatus :=
  if channel.settleTransaction.any (·.isSuccess) then .settled
  else if !channel.punishments.isEmpty then .punished
  else if channel.updateTransaction.isSome then .updated
  else if channel.closeTransaction.isSome then .closed
  else .opened

def closeBlock (channel : Channel) : Option BlockNumber :=
  channel.closeTransaction.bind (·.finishedBlock)

/-- The last block at which a balance proof update is accepted. -/
def settleTimeoutEnd (channel : Channel) : Option BlockNumber :=
  channel.closeBlock.map (·.saturatingAdd channel.settleTimeout)

def capacity (channel : Channel) : Amount :=
  channel.ours.deposit.saturatingAdd channel.partner.deposit

/-- Whether the cheater has forfeited the lock, whichever commitment it was proven against. -/
def isLockPunished (channel : Channel) (cheater : Address) (lockHash : Hash) : Bool :=
  channel.punishments.any fun p => p.cheater = cheater ∧ p.lockHash = lockHash

end Channel

/-! ## JSON forms -/

instance : Codec TransactionOutcome where
  encode
    | .success => .string "Success"
    | .failure => .string "Failure"
  decode json := match json.tag? with
    | some "Success" => .ok .success
    | some "Failure" => .ok .failure
    | _ => .error .form

instance : Codec TransactionStatus where
  encode status := .object [
    ("started_block_number", encode status.startedBlock),
    ("finished_block_number", encode status.finishedBlock),
    ("result", encode status.outcome)]
  decode :=
    Fields.run (TransactionStatus.mk <$> member "started_block_number"
      <*> member "finished_block_number" <*> member "result")

instance : Codec Punishment where
  encode punishment := .object [
    ("beneficiary", encode punishment.beneficiary),
    ("cheater", encode punishment.cheater),
    ("lock_hash", encode punishment.lockHash),
    ("locksroot", encode punishment.locksroot),
    ("amount", encode punishment.amount),
    ("block_number", encode punishment.block)]
  decode :=
    Fields.run (Punishment.mk <$> member "beneficiary" <*> member "cheater" <*> member "lock_hash"
      <*> member "locksroot" <*> member "amount" <*> member "block_number")

instance : Codec Settlement where
  encode settlement := .object [
    ("our_transferred_amount", encode settlement.ourTransferredAmount),
    ("our_locksroot", encode settlement.ourLocksroot),
    ("our_balance", encode settlement.ourBalance),
    ("partner_transferred_amount", encode settlement.partnerTransferredAmount),
    ("partner_locksroot", encode settlement.partnerLocksroot),
    ("partner_balance", encode settlement.partnerBalance)]
  decode :=
    Fields.run (Settlement.mk <$> member "our_transferred_amount" <*> member "our_locksroot"
      <*> member "our_balance" <*> member "partner_transferred_amount"
      <*> member "partner_locksroot" <*> member "partner_balance")

instance : Codec Participant where
  encode participant := .object [
    ("address", encode participant.address),
    ("deposit", encode participant.deposit),
    ("balance_proof", encode participant.balanceProof),
    ("update_block_number", encode participant.updateBlock)]
  decode :=
    Fields.run (Participant.mk <$> member "address" <*> member "deposit" <*> member "balance_proof"
      <*> member "update_block_number")

instance : Codec Channel where
  encode channel := .object [
    ("canonical_identifier", encode channel.identifier),
    ("open_block_number", encode channel.openBlock),
    ("settle_timeout", encode channel.settleTimeout),
    ("punish_window", encode channel.punishWindow),
    ("our_state", encode channel.ours),
    ("partner_state", encode channel.partner),
    ("closing_participant", encode channel.closingParticipant),
    ("close_transaction", encode channel.closeTransaction),
    ("update_transaction", encode channel.updateTransaction),
    ("settle_transaction", encode channel.settleTransaction),
    ("punishments", encode channel.punishments),
    ("settlement", encode channel.settlement)]
  decode :=
    Fields.run (Channel.mk <$> member "canonical_identifier" <*> member "open_block_number"
      <*> member "settle_timeout" <*> member "punish_window" <*> member "our_state"
      <*> member "partner_state" <*> member "closing_participant"
      <*> member "close_transaction" <*> member "update_transaction"
      <*> member "settle_transaction" <*> member "punishments" <*> member "settlement")

end PaymentChannel
