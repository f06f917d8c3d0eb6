import PaymentChannel.Amount

/-!
# Chain ids

* `ChainId` : a public chain by its name, or a private chain by its number.
* `ChainId.ofAmount`, `ChainId.toAmount` : between chain ids and their numbers.

The number of a chain has up to 256 bits, and its JSON form writes the last 64 of them.
-/

namespace PaymentChannel

inductive ChainId where
  | mainnet
  | goerli
  | sepolia
  | privateChain (number : Amount)
  deriving DecidableEq

namespace ChainId

/-- The chain with a 64-bit number. Public chains go by their names. -/
def ofQuantity (q : Quantity) : ChainId :=
  if q = 1 then mainnet
  else if q = 5 then goerli
  else if q = 11155111 then sepolia
  else privateChain (Amount.ofQuantity q)

def ofAmount (number : Amount) : ChainId :=
  match number.toQuantity? with
  | some q => ofQuantity q
  | none => privateChain number

def toAmount : ChainId → Amount
  | mainnet => 1
  | goerli => 5
  | sepolia => 11155111
  | privateChain number => number

/-- The last 64 bits of a chain's number. -/
def toQuantity (id : ChainId) : Quantity := id.toAmount.lowQuantity

def bytes (id : ChainId) : Bytes := id.toAmount.bytes

/-- The name of a public chain, or the number of a private one. -/
def text : ChainId → String
  | mainnet => "Mainnet"
  | goerli => "Goerli"
  | sepolia => "Sepolia"
  | privateChain number => number.text

/-- Reads a chain id from a decimal number below `2 ^ 64`, which may start with a plus sign. -/
def ofText? (s : String) : Option ChainId :=
  let digits := match s.toList with
    | '+' :: rest => rest
    | digits => digits
  if digits.isEmpty then none
  else (Decimal.toNat? digits).bind fun n => (Quantity.ofNat? n).map ofQuantity

end ChainId

/-- Chain ids are written as the decimal text of the last 64 bits of their number, and read from
strings or whole numbers. -/
instance : Codec ChainId where
  encode id := .string id.toQuantity.text
  decode
    | .natural q => .ok (ChainId.ofQuantity q)
    | .string s => match ChainId.ofText? s with
      | some id => .ok id
      | none => .error .chainIdText
    | _ => .error .form

end PaymentChannel
