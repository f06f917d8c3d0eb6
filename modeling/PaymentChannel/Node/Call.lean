import PaymentChannel.ChainId
import PaymentChannel.Signature.Key
import PaymentChannel.Node.Block
import PaymentChannel.Node.Error
import PaymentChannel.Node.Log

/-!
# Calls of a node

* `NodeCall` : what a node can be asked for, and `NodeCall.Answer` what it answers.
* `Feed` : what a node can be subscribed to, and `Feed.Item` what it delivers.
* `Request` : all that is asked of a node, dialing it included.

A block that is `none` is the latest one.
-/

namespace PaymentChannel

structure CallRequest where
  sender : Option Address := none
  contract : Option Address := none
  gas : Option Amount := none
  gasPrice : Option Amount := none
  value : Option Amount := none
  data : Option Bytes := none
  deriving DecidableEq

/-- A transaction that is to be signed. What is left open is asked of the node. -/
structure TransactionRequest where
  nonce : Option Amount
  recipient : Option Address
  gas : Amount
  gasPrice : Option Amount
  value : Amount
  data : Bytes
  chain : Option Quantity
  deriving DecidableEq

inductive NodeCall where
  | blockNumber
  | blockByHash (hash : Hash)
  | blockByNumber (number : BlockNumber)
  | headerByHash (hash : Hash)
  | headerByNumber (number : BlockNumber)
  | transactionByHash (hash : Hash)
  | transactionReceipt (hash : Hash)
  | syncProgress
  | chainId
  | balanceAt (address : Address) (block : Option BlockNumber)
  | storageAt (address : Address) (position : Amount) (block : Option BlockNumber)
  | codeAt (address : Address) (block : Option BlockNumber)
  | nonceAt (address : Address) (block : Option BlockNumber)
  | filterLogs (filter : LogFilter)
  | callContract (call : CallRequest) (block : Option BlockNumber)
  | estimateGas (call : CallRequest) (block : Option BlockNumber)
  | gasPrice
  | signTransaction (transaction : TransactionRequest) (key : PrivateKey)
  | sendRawTransaction (data : Bytes)
  deriving DecidableEq

inductive Feed where
  | newHeads
  | logs (filter : LogFilter)
  deriving DecidableEq

inductive Request where
  | connect
  | call (nodeCall : NodeCall)
  | subscribe (feed : Feed)
  deriving DecidableEq

def NodeCall.Answer : NodeCall → Type
  | blockNumber => BlockNumber
  | blockByHash _ | blockByNumber _ => Option (Block TransactionRecord)
  | headerByHash _ | headerByNumber _ => Option (Block Hash)
  | transactionByHash _ => Option TransactionRecord
  | transactionReceipt _ => Option Receipt
  | syncProgress => SyncState
  | chainId => ChainId
  | balanceAt .. | nonceAt .. | estimateGas .. | gasPrice => Amount
  | storageAt .. => Hash
  | codeAt .. | callContract .. => Bytes
  | filterLogs _ => List Log
  | signTransaction .. => SignedTransaction
  | sendRawTransaction _ => Hash

def Feed.Item : Feed → Type
  | newHeads => Hash
  | logs _ => Log

/-- What a node answers to a request. A subscription is answered with what it will deliver. -/
def Request.Answer : Request → Type
  | connect => Unit
  | call nodeCall => nodeCall.Answer
  | subscribe feed => List feed.Item

def NodeCall.name : NodeCall → String
  | blockNumber => "block_number"
  | blockByHash _ => "block_by_hash"
  | blockByNumber _ => "block_by_number"
  | headerByHash _ => "header_by_hash"
  | headerByNumber _ => "header_by_number"
  | transactionByHash _ => "transaction_by_hash"
  | transactionReceipt _ => "transaction_receipt"
  | syncProgress => "sync_progress"
  | chainId => "chain_id"
  | balanceAt .. => "balance_at"
  | storageAt .. => "storage_at"
  | codeAt .. => "code_at"
  | nonceAt .. => "nonce_at"
  | filterLogs _ => "filter_logs"
  | callContract .. => "call_contract"
  | estimateGas .. => "estimate_gas"
  | gasPrice => "gas_price"
  | signTransaction .. => "sign_transaction"
  | sendRawTransaction _ => "send_raw_transaction"

def Request.name : Request → String
  | connect => "connect"
  | call nodeCall => nodeCall.name
  | subscribe .newHeads => "subscribe_new_heads"
  | subscribe (.logs _) => "subscribe_filter_logs"

/-- The JSON form of a contract call, in which what is not given is left out. -/
instance : Codec CallRequest where
  encode call := .compact [
    ("from", call.sender.map encode),
    ("to", call.contract.map encode),
    ("gas", call.gas.map encode),
    ("gasPrice", call.gasPrice.map encode),
    ("value", call.value.map encode),
    ("data", call.data.map encode)]
  decode := Fields.run (CallRequest.mk
    <$> member "from" <*> member "to" <*> member "gas" <*> member "gasPrice"
    <*> member "value" <*> member "data")

end PaymentChannel
