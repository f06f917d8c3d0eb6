import PaymentChannel.Channel.Change
import PaymentChannel.Channel.View

/-!
# The dispute rules

* `Channel.transition` : what a step makes of a channel, with the calls that follow from it.

The same rules hold for our own steps and for steps of the partner that were seen on the chain; the
sender tells them apart. A refused step changes nothing.
-/

namespace PaymentChannel

structure Transition where
  channel : Channel
  events : List Event

namespace Channel

/-! ## What is checked -/

def checkUnderDispute (channel : Channel) : Except DisputeError Unit :=
  if channel.status.isUnderDispute then .ok ()
  else .error (.validation (.notUnderDispute channel.status))

/-- The last block of the settle timeout of a closed channel. -/
def requireSettleTimeoutEnd (channel : Channel) : Except DisputeError BlockNumber :=
  match channel.settleTimeoutEnd with
  | some block => .ok block
  | none => .error (.validation .missingCloseBlock)

/-- Refuses a balance proof of another channel or of another signer. -/
def checkBalanceProof (channel : Channel) (proof : BalanceProof) (signer : Address) :
    Except DisputeError Unit :=
  if proof.identifier ≠ channel.identifier then .error (.validation .foreignBalanceProof)
  else if proof.openBlock ≠ channel.openBlock then
    .error (.validation (.openBlockMismatch proof.openBlock channel.openBlock))
  else proof.verify signer

/-- Refuses a balance proof that is not newer than the one recorded for its signer. -/
def checkNewer (proof : BalanceProof) : Option BalanceProof → Except DisputeError Unit
  | none => .ok ()
  | some recorded =>
    if proof.nonce ≤ recorded.nonce then .error (.staleNonce proof.nonce recorded.nonce)
    else if proof.transferredAmount < recorded.transferredAmount then
      .error (.validation .decreasedAmount)
    else .ok ()

/-- Refuses an update after the settle timeout, and one that does not supersede the recorded
proof. -/
def checkUpdate (channel : Channel) (proof : BalanceProof) (signer : Address)
    (block : BlockNumber) : Except DisputeError Unit := do
  let windowEnd ← channel.requireSettleTimeoutEnd
  if windowEnd < block then .error (.windowExpired block windowEnd)
  channel.checkBalanceProof proof signer
  checkNewer proof (← channel.ends signer).1.balanceProof

/-- The block of the update and the commitment that a beneficiary's lock is proven against. -/
def updateOf (beneficiary : Participant) : Except DisputeError (BlockNumber × Hash) :=
  match beneficiary.updateBlock, beneficiary.balanceProof with
  | some block, some proof => .ok (block, proof.locksroot)
  | _, _ => .error .noPriorUpdate

/-- Refuses a punishment without evidence. Returns the cheater and the commitment that the lock was
proven against. -/
def checkPunish (channel : Channel) (sender : Address) (request : PunishRequest) (lock : Lock)
    (block : BlockNumber) : Except DisputeError (Address × Hash) := do
  let _ ← channel.ends sender
  if request.identifier ≠ channel.identifier ∨ request.openBlock ≠ channel.openBlock then
    .error (.validation .foreignPunishRequest)
  let (beneficiary, cheater) ← channel.ends request.beneficiary
  let (updateBlock, locksroot) ← updateOf beneficiary
  let windowEnd := updateBlock.saturatingAdd channel.punishWindow
  if windowEnd < block then .error (.windowExpired block windowEnd)
  if (← request.signer) ≠ cheater.address then .error .signatureMismatch
  if lock.hash ≠ request.lockHash then .error (.validation .lockHashMismatch)
  if !verifyProof request.lockHash request.merkleProof locksroot then
    .error (.validation .locksrootMismatch)
  if channel.isLockPunished cheater.address request.lockHash then
    .error (.validation .alreadyPunished)
  return (cheater.address, locksroot)

/-! ## The four steps -/

/-- Closes the channel. The proof handed in takes the place of what was recorded for the partner. -/
def close (channel : Channel) (sender : Address) (proof : Option BalanceProof)
    (block : BlockNumber) : Except DisputeError Transition := do
  if channel.status ≠ .opened then .error (.validation (.alreadyClosed channel.status))
  let partner ← channel.counterparty sender
  if let some proof := proof then channel.checkBalanceProof proof partner
  let recorded := channel.updateEnd partner fun p => { p with balanceProof := proof }
  return {
    channel := { recorded with
      closingParticipant := some sender
      closeTransaction := some (.succeeded block) }
    events := [.sendClose block channel.identifier partner proof] }

def update (channel : Channel) (sender : Address) (proof : BalanceProof) (block : BlockNumber) :
    Except DisputeError Transition := do
  channel.checkUnderDispute
  let partner ← channel.counterparty sender
  channel.checkUpdate proof partner block
  let recorded := channel.updateEnd partner fun p =>
    { p with balanceProof := some proof, updateBlock := some block }
  return {
    channel := { recorded with updateTransaction := some (.succeeded block) }
    events := [.sendUpdate block channel.identifier partner proof] }

def punish (channel : Channel) (sender : Address) (request : PunishRequest) (lock : Lock)
    (block : BlockNumber) : Except DisputeError Transition := do
  channel.checkUnderDispute
  let (cheater, locksroot) ← channel.checkPunish sender request lock block
  let some signature := request.signature | .error .signatureMismatch
  return {
    channel := { channel with
      punishments := channel.punishments ++ [{
        beneficiary := request.beneficiary
        cheater
        lockHash := request.lockHash
        locksroot
        amount := lock.amount
        block }] }
    events := [.sendPunish block channel.identifier request.openBlock request.beneficiary cheater
      request.lockHash request.additionalHash signature] }

def settle (channel : Channel) (sender : Address) (block : BlockNumber) :
    Except DisputeError Transition := do
  channel.checkUnderDispute
  let _ ← channel.ends sender
  let timeoutEnd ← channel.requireSettleTimeoutEnd
  if block ≤ timeoutEnd then
    .error (.settleTimeoutPending block (timeoutEnd.saturatingAdd 1))
  let settlement := channel.settlementNow
  return {
    channel := { channel with
      settlement := some settlement
      settleTransaction := some (.succeeded block) }
    events := [.sendSettle block channel.identifier channel.ours.address channel.partner.address
      settlement] }

/-- What a step at the given block makes of the channel. A settled channel admits no step. -/
def transition (channel : Channel) (change : StateChange) (block : BlockNumber) :
    Except DisputeError Transition :=
  if channel.status = .settled then .error .channelFinalized
  else match change with
    | .close sender proof => channel.close sender proof block
    | .update sender proof => channel.update sender proof block
    | .punish sender request lock => channel.punish sender request lock block
    | .settle sender => channel.settle sender block

end Channel

end PaymentChannel
