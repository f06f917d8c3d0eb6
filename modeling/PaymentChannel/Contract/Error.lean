import PaymentChannel.ChainId
import PaymentChannel.Contract.Function
import PaymentChannel.Node.Error

/-!
# Failed transactions

* `Precondition` : what has to hold before a contract call is sent.
* `Unverified` : a signature that does not stand for what it should.
* `TransactionError` : why a contract call is not carried out.
-/

namespace PaymentChannel

inductive Precondition where
  /-- The partner is somebody else. -/
  | otherPartner
  | tokenNetwork (channel connected : Address)
  | chain (channel connected : ChainId)
  | balanceProofChannel
  | balanceProofSigned
  /-- The beneficiary calls. -/
  | beneficiary (address : Address)
  | settleTimeout (current settle : BlockNumber)
  /-- The contract accepts the call. -/
  | gasEstimate (function : ContractFunction) (reason : String)
  | closed
  deriving DecidableEq

def Precondition.message : Precondition → String
  | otherPartner => "Cannot close a channel with ourselves"
  | tokenNetwork channel connected =>
    "Channel belongs to token network " ++ channel.text ++ ", not " ++ connected.text
  | chain channel connected =>
    "Channel belongs to chain " ++ channel.text ++ ", connected to chain " ++ connected.text
  | balanceProofChannel => "Balance proof belongs to another channel"
  | balanceProofSigned => "Cannot update with an unsigned balance proof"
  | beneficiary address =>
    "Only the beneficiary " ++ address.text ++ " can punish an obsolete unlock"
  | settleTimeout current settle =>
    "Settle timeout has not expired. Current block " ++ current.text ++
      ", settle possible at " ++ settle.text
  | gasEstimate function reason =>
    function.name ++ " failed. Gas estimation failed: " ++ reason
  | closed => "Channel was never closed"

inductive Unverified where
  | balanceProof
  | balanceProofSigner (signer expected : Address)
  | cheaterSignature
  | cheater
  deriving DecidableEq

def Unverified.message : Unverified → String
  | balanceProof => "Could not verify the balance proof"
  | balanceProofSigner signer expected =>
    "Balance proof is signed by " ++ signer.text ++ ", expected " ++ expected.text
  | cheaterSignature => "Could not verify the cheater signature"
  | cheater => "Invalid cheater signature"

inductive TransactionError where
  | chain (error : NodeError)
  | insufficientFunds (current required : Amount)
  | brokenPrecondition (precondition : Precondition)
  | failed (hash : Hash) (reason : String)
  | unrecoverable (cause : Unverified)
  deriving DecidableEq

def TransactionError.message : TransactionError → String
  | chain error => "Chain error: `" ++ error.message ++ "`"
  | insufficientFunds current required =>
    "Insufficient ETH: `Balance is not enough to execute transaction. Current: " ++
      current.text ++ ", required: " ++ required.text ++ "`"
  | brokenPrecondition precondition => "Broken precondition: `" ++ precondition.message ++ "`"
  | failed hash reason => "Transaction " ++ hash.text ++ " failed: `" ++ reason ++ "`"
  | unrecoverable cause => "Unrecoverable error: `" ++ cause.message ++ "`"

end PaymentChannel
