import PaymentChannel.Duration
import PaymentChannel.Node.Call

/-!
# JSON forms of calls and answers

* `NodeCall.decode`, `Feed.decode?` : read a request from an object that names its method beside
  its arguments.
* `Request.encode` : a request as a list of its name and its arguments.
* `NodeCall.encodeAnswer`, `Feed.encodeItem` : what a node answers.

The numbers of blocks stand as decimal text in requests, and in hexadecimal in answers that tell
about blocks and receipts.
-/

namespace PaymentChannel

def decodeCount : Json → Decoded Nat := Json.decodeBelow UInt64.size

def decodeLimit : Json → Decoded (Option Nat)
  | .null => .ok none
  | json => (decodeCount json).map some

def LogFilter.decode : Json → Decoded LogFilter := Fields.run (LogFilter.ofCriteria
  <$> member "from_block" <*> member "to_block" <*> member "block_hash" <*> member "address"
  <*> member "topics" <*> .memberBy decodeLimit "limit")

def PrivateKey.decode (json : Json) : Decoded PrivateKey := do
  let bytes : Bytes ← Codec.decode json
  match PrivateKey.ofBytes bytes with
  | .ok key => .ok key
  | .error _ => .error .form

namespace TransactionRequest

def fields : Fields TransactionRequest := TransactionRequest.mk
  <$> member "nonce" <*> member "to" <*> member "gas" <*> member "gas_price" <*> member "value"
  <*> member "data" <*> member "chain_id"

def encode (transaction : TransactionRequest) (sender : Address) : Json := .object [
  ("from", Codec.encode sender),
  ("nonce", Codec.encode transaction.nonce),
  ("to", Codec.encode transaction.recipient),
  ("gas", Codec.encode transaction.gas),
  ("gas_price", Codec.encode transaction.gasPrice),
  ("value", Codec.encode transaction.value),
  ("data", Codec.encode transaction.data),
  ("chain_id", Codec.encode transaction.chain)]

end TransactionRequest

/-! ## Requests -/

def NodeCall.decode (json : Json) : Decoded NodeCall :=
  match json.member? "method" with
  | some (.string method) => match method with
    | "block_number" => .ok .blockNumber
    | "block_by_hash" => .blockByHash <$> json.field "hash"
    | "block_by_number" => .blockByNumber <$> json.field "number"
    | "header_by_hash" => .headerByHash <$> json.field "hash"
    | "header_by_number" => .headerByNumber <$> json.field "number"
    | "transaction_by_hash" => .transactionByHash <$> json.field "hash"
    | "transaction_receipt" => .transactionReceipt <$> json.field "hash"
    | "sync_progress" => .ok .syncProgress
    | "chain_id" => .ok .chainId
    | "balance_at" => .balanceAt <$> json.field "address" <*> json.field "block"
    | "storage_at" =>
      .storageAt <$> json.field "address" <*> json.field "position" <*> json.field "block"
    | "code_at" => .codeAt <$> json.field "address" <*> json.field "block"
    | "nonce_at" => .nonceAt <$> json.field "address" <*> json.field "block"
    | "filter_logs" => .filterLogs <$> LogFilter.decode json
    | "call_contract" => .callContract <$> json.field "call" <*> json.field "block"
    | "estimate_gas" => .estimateGas <$> json.field "call" <*> json.field "block"
    | "gas_price" => .ok .gasPrice
    | "sign_transaction" => (NodeCall.signTransaction <$> TransactionRequest.fields
        <*> .memberBy PrivateKey.decode "key").run json
    | "send_raw_transaction" => .sendRawTransaction <$> json.field "data"
    | _ => .error .form
  | _ => .error .form

/-- Reads a subscription, where the object names the method of one. -/
def Feed.decode? (json : Json) : Option (Decoded Feed) :=
  match json.member? "method" with
  | some (.string "subscribe_new_heads") => some (.ok .newHeads)
  | some (.string "subscribe_filter_logs") => some (.logs <$> LogFilter.decode json)
  | _ => none

def NodeCall.encodeArguments : NodeCall → List Json
  | blockNumber | syncProgress | chainId | gasPrice => []
  | blockByHash hash | headerByHash hash | transactionByHash hash | transactionReceipt hash =>
    [encode hash]
  | blockByNumber number | headerByNumber number => [encode number]
  | balanceAt address block | codeAt address block | nonceAt address block =>
    [encode address, encode block]
  | storageAt address position block => [encode address, encode position, encode block]
  | filterLogs filter => [filter.encode]
  | callContract call block | estimateGas call block => [encode call, encode block]
  | signTransaction transaction key => [transaction.encode key.address]
  | sendRawTransaction data => [encode data]

def Request.encodeArguments : Request → List Json
  | connect | subscribe .newHeads => []
  | call nodeCall => nodeCall.encodeArguments
  | subscribe (.logs filter) => [filter.encode]

/-- A request as a list of its name and its arguments. -/
def Request.encode (request : Request) : Json :=
  .array (.string request.name :: request.encodeArguments)

/-! ## Answers -/

def encodeHexQuantity (q : Quantity) : Json := .string (Hex.markedNat q.toNat)

def Log.encode (log : Log) : Json := .object [
  ("address", Codec.encode log.address),
  ("topics", Codec.encode log.topics),
  ("data", Codec.encode log.data)]

/-- The JSON form of a block, with the hashes of its transactions. -/
def Block.encode {α : Type} (hash : α → Hash) (block : Block α) : Json := .object [
  ("hash", Codec.encode block.hash),
  ("number", .orNull (block.number.map encodeHexQuantity)),
  ("transactions", Codec.encode (block.transactions.map hash))]

def TransactionRecord.encode (record : TransactionRecord) : Json := .object [
  ("hash", Codec.encode record.hash),
  ("nonce", Codec.encode record.nonce),
  ("value", Codec.encode record.value),
  ("input", Codec.encode record.input)]

def Receipt.encode (receipt : Receipt) : Json := .object [
  ("transaction_hash", Codec.encode receipt.transaction),
  ("block_number", .orNull (receipt.block.map encodeHexQuantity)),
  ("status", .orNull (receipt.status.map encodeHexQuantity))]

/-- The JSON form of how far a node has caught up: `false`, or where it stands. -/
def SyncState.encode : SyncState → Json
  | synced => .bool false
  | syncing starting current highest => .object [
    ("startingBlock", Codec.encode starting),
    ("currentBlock", Codec.encode current),
    ("highestBlock", Codec.encode highest)]

def SignedTransaction.encode (signed : SignedTransaction) : Json := .object [
  ("message_hash", Codec.encode signed.messageHash),
  ("v", .string signed.v.text),
  ("r", Codec.encode signed.r),
  ("s", Codec.encode signed.s),
  ("raw_transaction", Codec.encode signed.raw),
  ("transaction_hash", Codec.encode signed.hash)]

def NodeCall.encodeAnswer : (call : NodeCall) → call.Answer → Json
  | blockNumber, (number : BlockNumber) => encode number
  | blockByHash _, (block : Option (Block TransactionRecord))
  | blockByNumber _, (block : Option (Block TransactionRecord)) =>
    .orNull (block.map (Block.encode TransactionRecord.hash))
  | headerByHash _, (block : Option (Block Hash))
  | headerByNumber _, (block : Option (Block Hash)) => .orNull (block.map (Block.encode id))
  | transactionByHash _, (record : Option TransactionRecord) =>
    .orNull (record.map TransactionRecord.encode)
  | transactionReceipt _, (receipt : Option Receipt) => .orNull (receipt.map Receipt.encode)
  | syncProgress, (state : SyncState) => state.encode
  | chainId, (id : ChainId) => encode id.toAmount
  | balanceAt .., (amount : Amount)
  | nonceAt .., (amount : Amount)
  | estimateGas .., (amount : Amount)
  | gasPrice, (amount : Amount) => encode amount
  | storageAt .., (hash : Hash) => encode hash
  | codeAt .., (bytes : Bytes)
  | callContract .., (bytes : Bytes) => encode bytes
  | filterLogs _, (logs : List Log) => .array (logs.map Log.encode)
  | signTransaction .., (signed : SignedTransaction) => signed.encode
  | sendRawTransaction _, (hash : Hash) => encode hash

def Feed.encodeItem : (feed : Feed) → feed.Item → Json
  | newHeads, (hash : Hash) => encode hash
  | logs _, (log : Log) => log.encode

end PaymentChannel
