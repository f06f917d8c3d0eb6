import PaymentChannel.Address

/-!
# Arguments of contract calls

* `Token` : an argument.
* `encodeTokens` : the bytes of an argument list.

Arguments of a fixed size stand in the head. An argument of variable size stands in the tail, and
the head holds its distance from the start of the list.
-/

namespace PaymentChannel

inductive Token where
  | address (value : Address)
  | uint (value : Amount)
  | fixedBytes (value : Bytes)
  | bytes (value : Bytes)
  deriving DecidableEq

namespace Token

/-- What an argument of fixed size puts in the head. One of variable size puts its distance
there. -/
def inline? : Token → Option Bytes
  | address value => some (value.bytes.padLeft 32)
  | uint value => some value.bytes
  | fixedBytes value => some (value.padRight 32)
  | bytes _ => none

/-- What an argument puts in the tail: length and padded bytes if its size is variable. -/
def tail : Token → Bytes
  | bytes value => bigEndian 32 value.length ++ value.padRight 32
  | _ => []

def headSize (token : Token) : Nat :=
  match token.inline? with
  | some head => head.length
  | none => 32

end Token

/-- The heads of the arguments, of which the next tail stands at the given distance. -/
def encodeHeads (distance : Nat) : List Token → Bytes
  | [] => []
  | token :: rest =>
    (token.inline?.getD (bigEndian 32 distance)) ++ encodeHeads (distance + token.tail.length) rest

def headsSize : List Token → Nat
  | [] => 0
  | token :: rest => token.headSize + headsSize rest

/-- The bytes of an argument list: all heads, then all tails. -/
def encodeTokens (tokens : List Token) : Bytes :=
  encodeHeads (headsSize tokens) tokens ++ tokens.flatMap Token.tail

end PaymentChannel
