import PaymentChannel.Account.Action
import PaymentChannel.Contract.Call

/-!
# Sending contract calls

* `loadNonce` : the nonce of the next transaction of an account, as the chain has it.
* `checkFunds` : refuses gas that an account cannot pay for.
* `transact` : signs and sends a transaction, and waits until it is mined.
* `ContractCall.execute` : checks a contract call, estimates its gas and sends it.

A transaction is sent at most once: what has been mined and failed is explained, not repeated. The
nonce of a transaction that did not reach the node is released.
-/

namespace PaymentChannel

open AccountDialogue

def loadNonce (account : Address) : Submission Amount := Submission.call (.nonceAt account none)

def checkFunds (account : Address) (gas gasPrice : Amount) : Submission Unit := do
  let current : Amount ← Submission.call (.balanceAt account none)
  let required := gas.saturatingMul gasPrice
  if current < required then Submission.ofExcept (.error (.insufficientFunds current required))

/-- The gas that a call needs and the price of gas, asked for in the opposite order. -/
def estimateGas (account contract : Address) (data : Bytes) :
    AccountDialogue (NodeAnswer (Amount × Amount)) := do
  match ← call .gasPrice with
  | .error e => return .error e
  | .ok gasPrice =>
    let request : CallRequest :=
      { sender := account, contract := contract, gasPrice := some gasPrice, data := data }
    return (← call (.estimateGas request none)).map (·, gasPrice)

/-- Why the contract rejects a call, found out by replaying it at a block. -/
def revertReason (account contract : Address) (data : Bytes) (block : Option BlockNumber) :
    AccountDialogue String := do
  let request : CallRequest := { sender := account, contract := contract, data := data }
  match ← call (.callContract request block) with
  | .ok _ => return "Call succeeds when replayed, no revert reason available"
  | .error (.rpc reason) => return reason
  | .error e => return e.message

/-- Fails with the reason why gas could not be estimated: the account has too little to pay for gas
at all, or the contract rejects the call. -/
def explainEstimate {α : Type} (account contract : Address) (function : ContractFunction)
    (data : Bytes) : Submission α := do
  let gasPrice ← Submission.call .gasPrice
  checkFunds account function.gasReserve gasPrice
  let block := (← call .blockNumber).toOption
  let reason ← revertReason account contract data block
  Submission.ofExcept (.error (.brokenPrecondition (.gasEstimate function reason)))

def signAndSend (key : PrivateKey) (transaction : TransactionRequest) :
    AccountDialogue (NodeAnswer Hash) := do
  match ← call (.signTransaction transaction key) with
  | .error e => return .error e
  | .ok signed => call (.sendRawTransaction signed.raw)

/-- Sends the next transaction of an account. Its nonce is used up only if the node takes it. -/
def sendNext (key : PrivateKey) (transaction : TransactionRequest) : Submission Hash := do
  let nonce ← reserveNonce
  match ← signAndSend key { transaction with nonce := some nonce } with
  | .ok hash =>
    commitNonce
    return hash
  | .error e =>
    releaseNonce
    Submission.ofExcept (.error (.chain e))

def transact (key : PrivateKey) (contract : Address) (data : Bytes) (gas gasPrice : Amount) :
    Submission Hash := do
  checkFunds key.address gas gasPrice
  let chain : ChainId ← Submission.call .chainId
  let hash ← sendNext key {
    nonce := none, recipient := some contract, gas, gasPrice := some gasPrice, value := 0, data
    chain := some chain.toQuantity }
  let receipt ← Submission.ofNode (awaitReceipt hash)
  if receipt.isSuccess then return hash
  let reason ← revertReason key.address contract data receipt.block
  Submission.ofExcept (.error (.failed hash reason))

def ContractCall.execute (key : PrivateKey) (tokenNetwork : Address) (contractCall : ContractCall) :
    Submission Hash := do
  let chain ← Submission.call .chainId
  let block ← Submission.call .blockNumber
  Submission.ofExcept (contractCall.check key.address tokenNetwork chain block)
  let data := contractCall.data key.address
  match ← estimateGas key.address tokenNetwork data with
  | .ok (gas, gasPrice) => transact key tokenNetwork data gas gasPrice
  | .error e =>
    if e.isUnavailable then Submission.ofExcept (.error (.chain e))
    else explainEstimate key.address tokenNetwork contractCall.function data

end PaymentChannel
