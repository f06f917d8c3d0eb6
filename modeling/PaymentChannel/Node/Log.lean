import PaymentChannel.Address

/-!
# Logs of contracts

* `Log` : an entry that a contract wrote.
* `LogFilter` : the entries that are asked for.
* `LogFilter.ofCriteria` : a filter by blocks, contracts and topics.
-/

namespace PaymentChannel

structure Log where
  address : Address
  topics : List Hash
  data : Bytes
  deriving DecidableEq

/-- The entries that are asked for. A topic that is `none` may be any. -/
structure LogFilter where
  fromBlock : Option BlockNumber
  toBlock : Option BlockNumber
  blockHash : Option Hash
  addresses : Option (List Address)
  topics : Option (List (Option (List Hash)))
  limit : Option Nat
  deriving DecidableEq

namespace LogFilter

/-- The topics without those at the end that may be any. -/
def trimTopics (topics : List (Option (List Hash))) : List (Option (List Hash)) :=
  (topics.reverse.dropWhile Option.isNone).reverse

/-- The filter for a range of blocks, or for the one block of the given hash. -/
def ofCriteria (fromBlock toBlock : Option BlockNumber) (blockHash : Option Hash)
    (addresses : Option (List Address)) (topics : Option (List (Option (List Hash))))
    (limit : Option Nat) : LogFilter where
  fromBlock := if blockHash.isSome then none else fromBlock
  toBlock := if blockHash.isSome then none else toBlock
  blockHash := blockHash
  addresses := addresses
  topics := topics.map trimTopics
  limit := limit

/-- A list of alternatives: `null` for none, a single one without brackets. -/
def encodeAlternatives {α : Type} [Codec α] : List α → Json
  | [] => .null
  | [value] => Codec.encode value
  | values => Codec.encode values

def encodeBlock (block : BlockNumber) : Json := .string (Hex.markedNat block.toNat)

/-- The JSON form of a filter, in which what is not asked for is left out. -/
def encode (filter : LogFilter) : Json := .compact [
  ("fromBlock", filter.fromBlock.map encodeBlock),
  ("toBlock", filter.toBlock.map encodeBlock),
  ("blockHash", filter.blockHash.map Codec.encode),
  ("address", filter.addresses.map encodeAlternatives),
  ("topics", filter.topics.map fun topics =>
    .array (topics.map fun topic => .orNull (topic.map encodeAlternatives))),
  ("limit", filter.limit.map .count)]

end LogFilter

end PaymentChannel
