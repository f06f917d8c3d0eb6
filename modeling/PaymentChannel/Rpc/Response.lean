import PaymentChannel.Node.Block
import PaymentChannel.Node.Log

/-!
# Responses of a node

How the results of remote calls are read. Quantities are hexadecimal digits behind an optional mark,
never JSON numbers. Members that are not required may be missing or `null`, and are checked where
they are given.
-/

namespace PaymentChannel.Response

/-- Reads a number of 1 to `digits` hexadecimal digits. -/
def hexNumber (digits : Nat) : Json → Decoded Nat
  | .string s =>
    let text := Hex.unmarked s.toList
    if text.isEmpty || digits < text.length then .error .form
    else Decoded.ofOption (Hex.toNat? text)
  | _ => .error .form

def quantity (json : Json) : Decoded Quantity := (hexNumber 16 json).map UInt64.ofNat

def fixedBytes (length : Nat) : Json → Decoded Bytes
  | .string s => Decoded.ofOption (Hex.fixedBytes? length s)
  | _ => .error .form

def flag : Json → Decoded Bool
  | .bool b => .ok b
  | _ => .error .form

def text : Json → Decoded String
  | .string s => .ok s
  | _ => .error .form

def listOf {α : Type} (item : Json → Decoded α) : Json → Decoded (List α)
  | .array values => values.mapM item
  | _ => .error .form

def nullable {α : Type} (value : Json → Decoded α) : Json → Decoded (Option α)
  | .null => .ok none
  | json => (value json).map some

def hash : Json → Decoded Hash := decode

def address : Json → Decoded Address := decode

def amount : Json → Decoded Amount := decode

def bytes : Json → Decoded Bytes := decode

/-- Reads a member that may be missing or `null`. -/
def maybe {α : Type} (value : Json → Decoded α) (name : String) : Fields (Option α) :=
  .memberBy (nullable value) name

def log : Json → Decoded Log := Fields.run (Log.mk
  <$> .memberBy address "address" <*> .memberBy (listOf hash) "topics" <*> .memberBy bytes "data"
  <* maybe hash "blockHash" <* maybe quantity "blockNumber" <* maybe hash "transactionHash"
  <* maybe quantity "transactionIndex" <* maybe amount "logIndex"
  <* maybe amount "transactionLogIndex" <* maybe text "logType" <* maybe flag "removed")

def receipt : Json → Decoded Receipt := Fields.run (Receipt.mk
  <$> .memberBy hash "transactionHash" <*> maybe quantity "blockNumber" <*> maybe quantity "status"
  <* .memberBy quantity "transactionIndex" <* .memberBy amount "cumulativeGasUsed"
  <* .memberBy (listOf log) "logs" <* .memberBy (fixedBytes 256) "logsBloom"
  <* .memberOr address "from" .zero <* maybe hash "blockHash" <* maybe address "to"
  <* maybe amount "gasUsed" <* maybe address "contractAddress" <* maybe hash "root"
  <* maybe quantity "type" <* maybe amount "effectiveGasPrice")

def accessEntry : Json → Decoded (Address × List Hash) := Fields.run (Prod.mk
  <$> .memberBy address "address" <*> .memberBy (listOf hash) "storageKeys")

def transaction : Json → Decoded TransactionRecord := Fields.run (TransactionRecord.mk
  <$> .memberBy hash "hash" <*> .memberBy amount "nonce" <*> .memberBy amount "value"
  <*> .memberBy bytes "input" <* .memberBy amount "gas" <* maybe hash "blockHash"
  <* maybe quantity "blockNumber" <* maybe quantity "transactionIndex" <* maybe address "from"
  <* maybe address "to" <* maybe amount "gasPrice" <* maybe quantity "v" <* maybe amount "r"
  <* maybe amount "s" <* maybe bytes "raw" <* maybe quantity "type"
  <* maybe (listOf accessEntry) "accessList" <* maybe amount "maxFeePerGas"
  <* maybe amount "maxPriorityFeePerGas")

/-- Reads a block whose transactions are given in full or by their hashes. -/
def block {α : Type} (item : Json → Decoded α) : Json → Decoded (Block α) := Fields.run (Block.mk
  <$> maybe hash "hash" <*> maybe quantity "number" <*> .memberBy (listOf item) "transactions"
  <* .memberBy hash "parentHash" <* .memberBy hash "sha3Uncles" <* .memberBy hash "stateRoot"
  <* .memberBy hash "transactionsRoot" <* .memberBy hash "receiptsRoot"
  <* .memberBy amount "gasUsed" <* .memberBy amount "gasLimit" <* .memberBy bytes "extraData"
  <* .memberBy amount "timestamp" <* .memberBy amount "difficulty"
  <* .memberBy (listOf hash) "uncles" <* maybe address "miner" <* maybe amount "baseFeePerGas"
  <* maybe (fixedBytes 256) "logsBloom" <* maybe amount "totalDifficulty"
  <* maybe (listOf bytes) "sealFields" <* maybe amount "size" <* maybe hash "mixHash"
  <* maybe (fixedBytes 8) "nonce")

/-- Reads how far a node has caught up: `false`, or where it stands. -/
def syncState : Json → Decoded SyncState
  | .bool false => .ok .synced
  | json => Fields.run (SyncState.syncing
    <$> .memberBy amount "startingBlock" <*> .memberBy amount "currentBlock"
    <*> .memberBy amount "highestBlock") json

end PaymentChannel.Response
