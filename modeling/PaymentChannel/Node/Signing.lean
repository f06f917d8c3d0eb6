import PaymentChannel.Rlp
import PaymentChannel.Node.Call

/-!
# Signed transactions

* `LegacyTransaction` : a transaction whose price is a single number.
* `LegacyTransaction.sign` : the transaction with a signature that binds it to a chain.

What is signed ends in the chain and two zeros; in the signed transaction the numbers of the
signature take their places.
-/

namespace PaymentChannel

/-- A transaction with a single gas price. Without a recipient it creates a contract. -/
structure LegacyTransaction where
  nonce : Amount
  gasPrice : Amount
  gas : Amount
  recipient : Option Address
  value : Amount
  data : Bytes
  deriving DecidableEq

namespace LegacyTransaction

def amount (a : Amount) : Rlp := .number a.toNat

def fields (transaction : LegacyTransaction) : List Rlp :=
  [amount transaction.nonce, amount transaction.gasPrice, amount transaction.gas,
    .bytes ((transaction.recipient.map Address.bytes).getD []), amount transaction.value,
    .bytes transaction.data]

def messageHash (transaction : LegacyTransaction) (chain : Quantity) : Hash :=
  keccak256 (Rlp.list (transaction.fields ++
    [.number chain.toNat, .number 0, .number 0])).encode

def sign (transaction : LegacyTransaction) (key : PrivateKey) (chain : Quantity) :
    Except SigningError SignedTransaction :=
  let messageHash := transaction.messageHash chain
  (key.signForChain messageHash.bytes chain).map fun signature =>
    let raw := (Rlp.list (transaction.fields ++
      [.number signature.v.toNat, .number signature.r.bits.toNat,
        .number signature.s.bits.toNat])).encode
    { messageHash, v := signature.v, r := signature.r, s := signature.s, raw
      hash := keccak256 raw }

end LegacyTransaction

end PaymentChannel
