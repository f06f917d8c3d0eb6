import PaymentChannel.Contract.Error
import PaymentChannel.Dialogue
import PaymentChannel.Node.Call

/-!
# What an account does

* `Receipt.awaited?` : whether an answer of the node ends the wait for a transaction.
* `Action` : a step of an account that sends a transaction.
* `Submission` : a dialogue in such steps that may fail.

An account has one nonce, the number of its next transaction. Whoever holds it keeps the others
waiting until it is committed or released; a dialogue that is dropped releases it.
-/

namespace PaymentChannel

/-- What the wait for a transaction ends with, if it ends with this answer. -/
def Receipt.awaited? : NodeAnswer (Option Receipt) → Option (NodeAnswer Receipt)
  | .error e => some (.error e)
  | .ok (some receipt) => if receipt.isMined then some (.ok receipt) else none
  | .ok none => none

inductive Action where
  | call (nodeCall : NodeCall)
  | awaitReceipt (hash : Hash)
  | reserveNonce
  /-- Lets go of the nonce after its transaction reached the node. -/
  | commitNonce
  /-- Lets go of the nonce for another transaction to use it. -/
  | releaseNonce
  deriving DecidableEq

def Action.Answer : Action → Type
  | call nodeCall => NodeAnswer nodeCall.Answer
  | awaitReceipt _ => NodeAnswer Receipt
  | reserveNonce => Amount
  | commitNonce | releaseNonce => Unit

abbrev AccountDialogue : Type → Type := Dialogue Action Action.Answer

namespace AccountDialogue

def call (nodeCall : NodeCall) : AccountDialogue (NodeAnswer nodeCall.Answer) :=
  .ask (.call nodeCall) .done

def awaitReceipt (hash : Hash) : AccountDialogue (NodeAnswer Receipt) :=
  .ask (.awaitReceipt hash) .done

def reserveNonce : AccountDialogue Amount := .ask .reserveNonce .done

def commitNonce : AccountDialogue Unit := .ask .commitNonce .done

def releaseNonce : AccountDialogue Unit := .ask .releaseNonce .done

end AccountDialogue

abbrev Submission : Type → Type := ExceptT TransactionError AccountDialogue

namespace Submission

/-- Goes on with an answer of the node, or fails with its error. -/
def ofNode {α : Type} (dialogue : AccountDialogue (NodeAnswer α)) : Submission α :=
  ExceptT.mk do return (← dialogue).mapError .chain

def ofExcept {α : Type} (result : Except TransactionError α) : Submission α :=
  ExceptT.mk (pure result)

def call (nodeCall : NodeCall) : Submission nodeCall.Answer := ofNode (.call nodeCall)

end Submission

end PaymentChannel
