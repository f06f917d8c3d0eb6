import PaymentChannel.Channel.Change
import PaymentChannel.Contract.Error

/-!
# Contract calls of a dispute

* `ContractCall` : a call of the token network contract on behalf of a channel.
* `ContractCall.data` : the bytes of the call.
* `ContractCall.check` : what is checked before the call is sent.
* `Event.contractCall` : the call behind an event of a channel.
-/

namespace PaymentChannel

inductive ContractCall where
  | close (identifier : CanonicalIdentifier) (partner : Address)
      (balanceProof : Option BalanceProof)
  | update (partner : Address) (balanceProof : BalanceProof)
  | punish (identifier : CanonicalIdentifier) (openBlock : BlockNumber)
      (beneficiary cheater : Address) (lockHash additionalHash : Hash) (cheaterSignature : Bytes)
  | settle (identifier : CanonicalIdentifier) (partner : Address) (settlement : Settlement)
      (settleBlock : BlockNumber)
  deriving DecidableEq

/-- The signature that stands for a missing one. -/
def emptySignature : Bytes := List.replicate signatureLength 0

/-- The arguments of a call that hands in a balance proof. Without one they are all zero. -/
def balanceProofArguments (partner : Address) : Option BalanceProof → List Token
  | some proof => [.address partner, .uint proof.transferredAmount,
      .fixedBytes proof.locksroot.bytes, .uint (.ofQuantity proof.nonce),
      .fixedBytes proof.additionalHash.bytes, .bytes (proof.signature.getD emptySignature)]
  | none => [.address partner, .uint 0, .fixedBytes emptyLocksroot.bytes, .uint 0,
      .fixedBytes Hash.zero.bytes, .bytes emptySignature]

/-- Refuses a channel of another token network or another chain. -/
def checkIdentifier (tokenNetwork : Address) (chain : ChainId) (identifier : CanonicalIdentifier) :
    Except TransactionError Unit :=
  if identifier.tokenNetwork ≠ tokenNetwork then
    .error (.brokenPrecondition (.tokenNetwork identifier.tokenNetwork tokenNetwork))
  else if identifier.chain ≠ chain then
    .error (.brokenPrecondition (.chain identifier.chain chain))
  else .ok ()

def checkSigned (tokenNetwork : Address) (chain : ChainId) (proof : BalanceProof)
    (expected : Address) : Except TransactionError Unit := do
  checkIdentifier tokenNetwork chain proof.identifier
  match proof.signer with
  | .error _ => .error (.unrecoverable .balanceProof)
  | .ok signer =>
    if signer ≠ expected then .error (.unrecoverable (.balanceProofSigner signer expected))

namespace ContractCall

def function : ContractCall → ContractFunction
  | close .. => .closeChannel
  | update .. => .updateBalanceProof
  | punish .. => .punishObsoleteUnlock
  | settle .. => .settleChannel

def arguments (account : Address) : ContractCall → List Token
  | close _ partner balanceProof => balanceProofArguments partner balanceProof
  | update partner balanceProof => balanceProofArguments partner (some balanceProof)
  | punish _ _ beneficiary cheater lockHash additionalHash cheaterSignature =>
    [.address beneficiary, .address cheater, .fixedBytes lockHash.bytes,
      .fixedBytes additionalHash.bytes, .bytes cheaterSignature]
  | settle _ partner settlement _ =>
    [.address account, .uint settlement.ourTransferredAmount,
      .fixedBytes settlement.ourLocksroot.bytes, .address partner,
      .uint settlement.partnerTransferredAmount, .fixedBytes settlement.partnerLocksroot.bytes]

def data (account : Address) (call : ContractCall) : Bytes :=
  call.function.callData (call.arguments account)

/-- Refuses a call that the contract of the given token network would not accept from the given
account, as far as chain and block tell. -/
def check (account tokenNetwork : Address) (chain : ChainId) (block : BlockNumber) :
    ContractCall → Except TransactionError Unit
  | close identifier partner balanceProof => do
    if partner = account then .error (.brokenPrecondition .otherPartner)
    checkIdentifier tokenNetwork chain identifier
    if let some proof := balanceProof then
      if proof.identifier ≠ identifier then .error (.brokenPrecondition .balanceProofChannel)
      checkSigned tokenNetwork chain proof partner
  | update partner balanceProof => do
    if balanceProof.signature.isNone then .error (.brokenPrecondition .balanceProofSigned)
    checkSigned tokenNetwork chain balanceProof partner
  | punish identifier openBlock beneficiary cheater lockHash additionalHash cheaterSignature => do
    checkIdentifier tokenNetwork chain identifier
    if beneficiary ≠ account then .error (.brokenPrecondition (.beneficiary beneficiary))
    let message := packObsoleteUnlock lockHash identifier.channel openBlock chain additionalHash
    match recoverSigner message cheaterSignature with
    | .error _ => .error (.unrecoverable .cheaterSignature)
    | .ok signer => if signer ≠ cheater then .error (.unrecoverable .cheater)
  | settle identifier _ _ settleBlock => do
    checkIdentifier tokenNetwork chain identifier
    if block < settleBlock then .error (.brokenPrecondition (.settleTimeout block settleBlock))

end ContractCall

/-- The call behind an event that a channel has emitted, where the channel is given as it stands
after the event. -/
def Event.contractCall (channel : Channel) : Event → Except TransactionError ContractCall
  | sendClose _ identifier partner balanceProof => .ok (.close identifier partner balanceProof)
  | sendUpdate _ _ partner balanceProof => .ok (.update partner balanceProof)
  | sendPunish _ identifier openBlock beneficiary cheater lockHash additionalHash
      cheaterSignature =>
    .ok (.punish identifier openBlock beneficiary cheater lockHash additionalHash cheaterSignature)
  | sendSettle _ identifier _ partnerAddress settlement =>
    match channel.settleTimeoutEnd with
    | some timeoutEnd =>
      .ok (.settle identifier partnerAddress settlement (timeoutEnd.saturatingAdd 1))
    | none => .error (.brokenPrecondition .closed)

end PaymentChannel
