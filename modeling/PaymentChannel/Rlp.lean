import PaymentChannel.Bytes

/-!
# Length-prefixed data

* `Rlp` : byte strings and lists of data.
* `Rlp.encode` : the bytes of a datum.

A byte below 128 stands for itself. Otherwise a byte string starts with 128 and a list with 192,
plus its length, or plus 55 and the size of the length, which follows. Numbers are byte strings
without leading zeros.
-/

namespace PaymentChannel

inductive Rlp where
  | bytes (value : Bytes)
  | list (items : List Rlp)

namespace Rlp

def minimalBytes (n : Nat) : Bytes := (bigEndian 32 n).dropWhile (· = 0)

/-- A number below `2 ^ 256`. -/
def number (n : Nat) : Rlp := bytes (minimalBytes n)

/-- What stands before data of the given length. -/
def lengthPrefix (base length : Nat) : Bytes :=
  if length < 56 then [UInt8.ofNat (base + length)]
  else
    let size := minimalBytes length
    UInt8.ofNat (base + 55 + size.length) :: size

def encodeBytes : Bytes → Bytes
  | [b] => if b < 128 then [b] else lengthPrefix 128 1 ++ [b]
  | value => lengthPrefix 128 value.length ++ value

mutual
def encode : Rlp → Bytes
  | bytes value => encodeBytes value
  | list items =>
    let payload := encodeItems items
    lengthPrefix 192 payload.length ++ payload

def encodeItems : List Rlp → Bytes
  | [] => []
  | item :: rest => encode item ++ encodeItems rest
end

end Rlp

end PaymentChannel
