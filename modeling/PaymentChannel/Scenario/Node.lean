import PaymentChannel.Node.Call

/-!
# A scripted node

* `NodeSettings` : what a node answers as long as nothing is scripted.
* `Outcome` : a scripted outcome of one request.
* `ScriptedNode` : a node that follows a script, and its settings once the script is exhausted.
-/

namespace PaymentChannel

structure NodeSettings where
  blockNumber : BlockNumber := 100
  chainId : Amount := 337
  balance : Amount := 1000000000000000000
  gasPrice : Amount := 1000000000
  gasEstimate : Amount := 100000
  nonce : Amount := 0
  receiptStatus : Option Quantity := some 1
  deriving DecidableEq

inductive Outcome where
  | normal
  | failure (error : NodeError)
  | delayed (milliseconds : Nat)
  | noReceipt
  /-- There is a receipt, but the transaction is not part of a block yet. -/
  | pendingReceipt
  deriving DecidableEq

abbrev Script := List (String × List Outcome)

def Script.outcomes (script : Script) (name : String) : List Outcome :=
  (script.lookup name).getD []

def Script.advance (script : Script) (name : String) : Script :=
  script.map fun (other, outcomes) => (other, if other = name then outcomes.tail else outcomes)

structure ScriptedNode where
  settings : NodeSettings := {}
  script : Script := []
  /-- The number of transactions that the node has taken. -/
  sent : Nat := 0
  deriving DecidableEq

namespace ScriptedNode

def hashOfSent (n : Nat) : Hash := ⟨BitVec.ofNat 256 n⟩

def receipt (node : ScriptedNode) (hash : Hash) : Outcome → Option Receipt
  | .noReceipt => none
  | .pendingReceipt => some ⟨hash, none, node.settings.receiptStatus⟩
  | _ => some ⟨hash, some node.settings.blockNumber, node.settings.receiptStatus⟩

def answer (node : ScriptedNode) (outcome : Outcome) : (call : NodeCall) → call.Answer
  | .blockNumber => node.settings.blockNumber
  | .blockByHash _ | .blockByNumber _ => none
  | .headerByHash hash => some ⟨some hash, none, []⟩
  | .headerByNumber number => some ⟨none, some number, []⟩
  | .transactionByHash _ => none
  | .transactionReceipt hash => node.receipt hash outcome
  | .syncProgress => SyncState.synced
  | .chainId => ChainId.ofAmount node.settings.chainId
  | .balanceAt .. => node.settings.balance
  | .storageAt .. => hashOfSent 7
  | .codeAt .. => [0x60, 0x80]
  | .nonceAt .. => node.settings.nonce
  | .filterLogs _ => []
  | .callContract .. => []
  | .estimateGas .. => node.settings.gasEstimate
  | .gasPrice => node.settings.gasPrice
  | .signTransaction transaction _ =>
    ({ messageHash := .zero, v := 27, r := .zero, s := .zero, raw := transaction.data
       hash := .zero } : SignedTransaction)
  | .sendRawTransaction _ => hashOfSent (node.sent + 1)

def items : (feed : Feed) → List feed.Item
  | .newHeads => [hashOfSent 1, hashOfSent 2]
  | .logs _ => []

def serve (node : ScriptedNode) (outcome : Outcome) :
    (request : Request) → NodeAnswer request.Answer × ScriptedNode
  | .connect => (.ok (), node)
  | .call (.sendRawTransaction data) =>
    (.ok (node.answer outcome (.sendRawTransaction data)), { node with sent := node.sent + 1 })
  | .call nodeCall => (.ok (node.answer outcome nodeCall), node)
  | .subscribe feed => (.ok (items feed), node)

end ScriptedNode

end PaymentChannel
