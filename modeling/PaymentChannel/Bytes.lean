/-!
# Byte strings

* `Bytes` : byte strings, first byte first.
* `bigEndian width n` : the last `width` base 256 digits of `n`, most significant first.
* `Bytes.toNat` : the number that a byte string writes in base 256.
-/

namespace PaymentChannel

abbrev Bytes := List UInt8

/-- The last `width` base 256 digits of a number, most significant first. -/
def bigEndian : (width : Nat) → Nat → Bytes
  | 0, _ => []
  | width + 1, n => bigEndian width (n / 256) ++ [UInt8.ofNat n]

/-- The bytes of a text in which every character is below 128. -/
def asciiBytes (text : List Char) : Bytes := text.map fun c => UInt8.ofNat c.toNat

namespace Bytes

/-- The number written in base 256, most significant digit first. -/
def toNat (bytes : Bytes) : Nat :=
  bytes.foldl (fun n b => 256 * n + b.toNat) 0

def padLeft (width : Nat) (bytes : Bytes) : Bytes :=
  List.replicate (width - bytes.length) 0 ++ bytes

/-- The bytes with zeros put behind up to the next multiple of the block size. -/
def padRight (block : Nat) (bytes : Bytes) : Bytes :=
  bytes ++ List.replicate ((block - bytes.length % block) % block) 0

@[simp] theorem toNat_nil : toNat [] = 0 := rfl

theorem toNat_append_singleton (bytes : Bytes) (b : UInt8) :
    toNat (bytes ++ [b]) = 256 * bytes.toNat + b.toNat := by
  simp [toNat, List.foldl_append]

end Bytes

@[simp] theorem bigEndian_zero (n : Nat) : bigEndian 0 n = [] := rfl

@[simp] theorem length_bigEndian (width n : Nat) : (bigEndian width n).length = width := by
  induction width generalizing n with
  | zero => rfl
  | succ width ih => simp [bigEndian, ih]

end PaymentChannel
