import PaymentChannel.Dialogue
import PaymentChannel.Node.Signing
import PaymentChannel.Rpc.Error
import PaymentChannel.Rpc.Response

/-!
# Calls of a node over remote calls

* `RpcRequest` : a remote call with its parameters.
* `NodeCall.overRpc` : the remote calls behind a call of a node.
* `Feed.createFilter`, `Feed.changes` : the remote calls behind a subscription.
* `RecordedTransport` : answers remote calls from a list.
* `RecordedTransport.take` : what a subscription delivers, polled until there is enough of it.
-/

namespace PaymentChannel

structure RpcRequest where
  method : String
  params : List Json

abbrev RpcDialogue : Type → Type :=
  ExceptT RpcFailure (Dialogue RpcRequest fun _ => Except RpcError Json)

namespace Rpc

def readResult {α : Type} (reader : Json → Decoded α) : Except RpcError Json → Except RpcError α
  | .error e => .error e
  | .ok json => match reader json with
    | .ok value => .ok value
    | .error _ => .error .undecodable

def call {α : Type} (method : String) (params : List Json) (reader : Json → Decoded α) :
    RpcDialogue α :=
  ExceptT.mk (.ask ⟨method, params⟩ fun answer =>
    .done ((readResult reader answer).mapError RpcFailure.remote))

/-- The parameter for a block, which is the latest one if none is given. -/
def blockParam : Option BlockNumber → Json
  | some block => LogFilter.encodeBlock block
  | none => .string "latest"

def orAsk {m : Type → Type} [Monad m] {α : Type} (given : Option α) (ask : m α) : m α :=
  match given with
  | some value => pure value
  | none => ask

/-- The chain as a 64-bit number. -/
def narrowChain (number : Amount) : Except RpcFailure Quantity :=
  match number.toQuantity? with
  | some chain => .ok chain
  | none => .error (.arithmetic .narrowing)

/-- Signs a transaction. Nonce, gas price and chain are asked for, in this order, where they are not
given. -/
def signTransaction (request : TransactionRequest) (key : PrivateKey) :
    RpcDialogue SignedTransaction := do
  let nonce ← orAsk request.nonce
    (call "eth_getTransactionCount" [encode key.address, blockParam none] Response.amount)
  let gasPrice ← orAsk request.gasPrice (call "eth_gasPrice" [] Response.amount)
  let chain ← match request.chain with
    | some chain => pure chain
    | none => do
      let number ← call "eth_chainId" [] Response.amount
      ExceptT.mk (.done (narrowChain number))
  let transaction : LegacyTransaction :=
    ⟨nonce, gasPrice, request.gas, request.recipient, request.value, request.data⟩
  ExceptT.mk (.done ((transaction.sign key chain).mapError fun _ => RpcFailure.remote .internal))

end Rpc

open Rpc in
def NodeCall.overRpc : (nodeCall : NodeCall) → RpcDialogue nodeCall.Answer
  | .blockNumber => call "eth_blockNumber" [] Response.quantity
  | .blockByHash hash => call "eth_getBlockByHash" [encode hash, .bool true]
    (Response.nullable (Response.block Response.transaction))
  | .blockByNumber number => call "eth_getBlockByNumber" [blockParam (some number), .bool true]
    (Response.nullable (Response.block Response.transaction))
  | .headerByHash hash => call "eth_getBlockByHash" [encode hash, .bool false]
    (Response.nullable (Response.block Response.hash))
  | .headerByNumber number => call "eth_getBlockByNumber" [blockParam (some number), .bool false]
    (Response.nullable (Response.block Response.hash))
  | .transactionByHash hash => call "eth_getTransactionByHash" [encode hash]
    (Response.nullable Response.transaction)
  | .transactionReceipt hash => call "eth_getTransactionReceipt" [encode hash]
    (Response.nullable Response.receipt)
  | .syncProgress => call "eth_syncing" [] Response.syncState
  | .chainId => ChainId.ofAmount <$> call "eth_chainId" [] Response.amount
  | .balanceAt address block => call "eth_getBalance" [encode address, blockParam block]
    Response.amount
  | .storageAt address position block =>
    call "eth_getStorageAt" [encode address, encode position, blockParam block] Response.hash
  | .codeAt address block => call "eth_getCode" [encode address, blockParam block] Response.bytes
  | .nonceAt address block => call "eth_getTransactionCount" [encode address, blockParam block]
    Response.amount
  | .filterLogs filter => call "eth_getLogs" [filter.encode] (Response.listOf Response.log)
  | .callContract request block => call "eth_call" [encode request, blockParam block]
    Response.bytes
  | .estimateGas request block =>
    call "eth_estimateGas" (encode request :: (block.map LogFilter.encodeBlock).toList)
      Response.amount
  | .gasPrice => call "eth_gasPrice" [] Response.amount
  | .signTransaction transaction key => Rpc.signTransaction transaction key
  | .sendRawTransaction data => call "eth_sendRawTransaction" [encode data] Response.hash

/-! ## Subscriptions -/

namespace Feed

def readItem : (feed : Feed) → Json → Decoded feed.Item
  | newHeads => Response.hash
  | logs _ => Response.log

def createFilter : Feed → RpcRequest
  | newHeads => ⟨"eth_newBlockFilter", []⟩
  | logs filter => ⟨"eth_newFilter", [filter.encode]⟩

def changes (filter : String) : RpcRequest := ⟨"eth_getFilterChanges", [.string filter]⟩

/-- What one poll delivers: its items, or its error as an item. A result of `null` has no items. -/
def items (feed : Feed) (answer : Except RpcError Json) : List (Except RpcError feed.Item) :=
  match Rpc.readResult (Response.nullable (Response.listOf feed.readItem)) answer with
  | .error e => [.error e]
  | .ok none => []
  | .ok (some items) => items.map .ok

end Feed

/-! ## A transport of recorded answers -/

/-- Answers remote calls from a list, and nothing once the list is exhausted. -/
structure RecordedTransport where
  responses : List (Except RpcError Json)
  /-- What was asked, latest first. -/
  asked : List RpcRequest

namespace RecordedTransport

def ofResponses (responses : List (Except RpcError Json)) : RecordedTransport := ⟨responses, []⟩

def requests (transport : RecordedTransport) : List RpcRequest := transport.asked.reverse

def answer (request : RpcRequest) : StateM RecordedTransport (Except RpcError Json) :=
  modifyGet fun transport =>
    (transport.responses.headD (.error .unreachable),
      ⟨transport.responses.tail, request :: transport.asked⟩)

/-- Polls the filter of a subscription until there are as many items as wanted. -/
def poll (feed : Feed) (filter : String) (wanted : Nat) :
    List (Except RpcError Json) → List RpcRequest →
      List (Except RpcError feed.Item) × RecordedTransport
  | responses, asked =>
    match wanted, responses with
    | 0, responses => ([], ⟨responses, asked⟩)
    | wanted, [] =>
      (List.replicate wanted (.error .unreachable),
        ⟨[], List.replicate wanted (Feed.changes filter) ++ asked⟩)
    | wanted, response :: rest =>
      let items := (feed.items response).take wanted
      let (more, transport) :=
        poll feed filter (wanted - items.length) rest (Feed.changes filter :: asked)
      (items ++ more, transport)

def take (feed : Feed) (wanted : Nat) :
    StateM RecordedTransport (Except RpcError (List (Except RpcError feed.Item))) := do
  match Rpc.readResult Response.text (← answer feed.createFilter) with
  | .error e => return .error e
  | .ok filter => modifyGet fun transport =>
    let (items, transport) := poll feed filter wanted transport.responses transport.asked
    (.ok items, transport)

end RecordedTransport

end PaymentChannel
