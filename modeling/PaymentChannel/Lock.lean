import PaymentChannel.Hash.Sha256
import PaymentChannel.Channel.Error

/-!
# Locks

* `Lock` : an amount that its receiver gets for a secret before a block.
* `Lock.create` : the lock with its encoded form.
* `Lock.hash` : the hash that stands for the lock in a commitment. It is taken of the encoded form,
  which a lock read from elsewhere carries along.
-/

namespace PaymentChannel

structure Lock where
  amount : Amount
  expiration : BlockNumber
  secretHash : Hash
  secret : Option Bytes
  encoded : Bytes
  deriving DecidableEq

namespace Lock

/-- Expiration, amount and secret hash in 32 bytes each. -/
def encodeFields (amount : Amount) (expiration : BlockNumber) (secretHash : Hash) : Bytes :=
  expiration.word ++ amount.bytes ++ secretHash.bytes

def create (amount : Amount) (expiration : BlockNumber) (secretHash : Hash) : Lock :=
  ⟨amount, expiration, secretHash, none, encodeFields amount expiration secretHash⟩

/-- The lock with its revealed secret, which has to have the secret hash of the lock. -/
def withSecret (lock : Lock) (secret : Bytes) : Except DisputeError Lock :=
  if sha256 secret = lock.secretHash then .ok { lock with secret := some secret }
  else .error (.validation .secretMismatch)

def hash (lock : Lock) : Hash := keccak256 lock.encoded

end Lock

instance : Codec Lock where
  encode lock := .object [
    ("amount", encode lock.amount),
    ("expiration", encode lock.expiration),
    ("secrethash", encode lock.secretHash),
    ("secret", encode lock.secret),
    ("encoded", encode lock.encoded)]
  decode :=
    Fields.run (Lock.mk <$> member "amount" <*> member "expiration" <*> member "secrethash"
      <*> member "secret" <*> member "encoded")

end PaymentChannel
