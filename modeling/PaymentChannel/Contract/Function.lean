import PaymentChannel.Contract.Abi

/-!
# Functions of the token network contract

* `ContractFunction` : the functions that resolve disputes.
* `ContractFunction.parameters` : the types of their parameters.
* `ContractFunction.callData` : the bytes that call a function.
-/

namespace PaymentChannel

inductive ParameterType where
  | address
  | uint (bits : Nat)
  | fixedBytes (size : Nat)
  | bytes
  deriving DecidableEq

def ParameterType.text : ParameterType → String
  | address => "address"
  | uint bits => "uint" ++ Decimal.text bits
  | fixedBytes size => "bytes" ++ Decimal.text size
  | bytes => "bytes"

inductive ContractFunction where
  | closeChannel
  | updateBalanceProof
  | punishObsoleteUnlock
  | settleChannel
  deriving DecidableEq

namespace ContractFunction

def name : ContractFunction → String
  | closeChannel => "closeChannel"
  | updateBalanceProof => "updateBalanceProof"
  | punishObsoleteUnlock => "punishObsoleteUnlock"
  | settleChannel => "settleChannel"

def all : List ContractFunction :=
  [closeChannel, updateBalanceProof, punishObsoleteUnlock, settleChannel]

def ofName? (name : String) : Option ContractFunction := all.find? (·.name = name)

def parameters : ContractFunction → List ParameterType
  | closeChannel | updateBalanceProof =>
    [.address, .uint 256, .fixedBytes 32, .uint 64, .fixedBytes 32, .bytes]
  | punishObsoleteUnlock => [.address, .address, .fixedBytes 32, .fixedBytes 32, .bytes]
  | settleChannel =>
    [.address, .uint 256, .fixedBytes 32, .address, .uint 256, .fixedBytes 32]

/-- The gas that an account has to be able to pay for, so that a failed estimate is not put down to
a lack of funds. -/
def gasReserve : ContractFunction → Amount
  | closeChannel => 110000
  | updateBalanceProof => 95000
  | punishObsoleteUnlock => 80000
  | settleChannel => 130000

def signature (function : ContractFunction) : String :=
  function.name ++ "(" ++ ",".intercalate (function.parameters.map (·.text)) ++ ")"

/-- The first four bytes of the hash of a function's signature. -/
def selector (function : ContractFunction) : Bytes :=
  (keccak256 (asciiBytes function.signature.toList)).bytes.take 4

def callData (function : ContractFunction) (arguments : List Token) : Bytes :=
  function.selector ++ encodeTokens arguments

end ContractFunction

end PaymentChannel
