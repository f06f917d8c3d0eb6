import PaymentChannel.Hash.Keccak

/-!
# Addresses

* `Address` : 20 bytes that name an account or a contract.
* `Address.ofHash` : the last 20 bytes of a hash.
* `Address.checksummed` : the text whose letter case carries a checksum.
-/

namespace PaymentChannel

structure Address where
  /-- The 20 bytes as a big endian number. -/
  bits : BitVec 160
  deriving DecidableEq

namespace Address

def zero : Address := ⟨0⟩

instance : Inhabited Address := ⟨zero⟩

def bytes (a : Address) : Bytes := bigEndian 20 a.bits.toNat

/-- The address with the given bytes, of which the last 20 count. -/
def ofBytes (bytes : Bytes) : Address := ⟨BitVec.ofNat 160 bytes.toNat⟩

/-- The last 20 bytes of a hash. -/
def ofHash (h : Hash) : Address := ⟨h.bits.setWidth 160⟩

def text (a : Address) : String := Hex.marked a.bytes

/-- The upper half of a byte, then the lower one. -/
def halves (b : UInt8) : List Nat := [b.toNat / 16, b.toNat % 16]

/-- The text whose letters are in upper case where the hash of the lower case text has a half byte
of at least 8. -/
def checksummed (a : Address) : String :=
  let digits := Hex.ofBytes a.bytes
  let marks := (keccak256 (asciiBytes digits)).bytes.flatMap halves
  "0x" ++ String.ofList (digits.zipWith (fun c mark => if 8 ≤ mark then c.toUpper else c) marks)

@[simp] theorem length_bytes (a : Address) : a.bytes.length = 20 := length_bigEndian ..

end Address

instance : Codec Address where
  encode a := .string a.text
  decode
    | .string s => Decoded.ofOption ((Hex.fixedBytes? 20 s).map Address.ofBytes)
    | _ => .error .form

end PaymentChannel
