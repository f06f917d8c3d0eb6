import PaymentChannel.Address

/-!
# What a node tells

* `Block` : a block with its transactions, in full or by their hashes.
* `Receipt` : the fate of a transaction. It is mined once its receipt has a block.
* `SyncState` : how far a node has caught up with its chain.
* `SignedTransaction` : a transaction ready to be sent.
-/

namespace PaymentChannel

structure TransactionRecord where
  hash : Hash
  nonce : Amount
  value : Amount
  input : Bytes
  deriving DecidableEq

/-- A block. One that is not yet part of the chain has neither hash nor number. -/
structure Block (α : Type) where
  hash : Option Hash
  number : Option BlockNumber
  transactions : List α
  deriving DecidableEq

structure Receipt where
  transaction : Hash
  block : Option BlockNumber
  status : Option Quantity
  deriving DecidableEq

namespace Receipt

def isMined (receipt : Receipt) : Bool := receipt.block.isSome

def isSuccess (receipt : Receipt) : Bool := receipt.status = some 1

end Receipt

inductive SyncState where
  | synced
  | syncing (starting current highest : Amount)
  deriving DecidableEq

structure SignedTransaction where
  messageHash : Hash
  v : Quantity
  r : Hash
  s : Hash
  raw : Bytes
  hash : Hash
  deriving DecidableEq

end PaymentChannel
