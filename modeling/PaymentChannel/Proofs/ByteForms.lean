import Mathlib.Algebra.Ring.Nat
import PaymentChannel.Address

/-!
# Byte forms

* `toNat_bigEndian` : writing a number and reading it back keeps what fits the width.
* `bigEndian_inj` : numbers that fit the width are told apart by their bytes.
* `Amount.toNat_ofQuantity` : a quantity keeps its value as an amount.
* `Hash.bytes_inj`, `Address.bytes_inj`, `Amount.bytes_inj`, `Quantity.bytes_inj`,
  `Quantity.word_inj` : so are hashes, addresses, amounts and quantities.
-/

namespace PaymentChannel

/-- Writing a number and reading it back keeps what fits the width. -/
theorem toNat_bigEndian (width n : Nat) : (bigEndian width n).toNat = n % 256 ^ width := by
  induction width generalizing n with
  | zero => simp [Nat.mod_one]
  | succ width ih =>
    have byte : (UInt8.ofNat n).toNat = n % 256 := UInt8.toNat_ofNat'
    rw [bigEndian, Bytes.toNat_append_singleton, ih, byte, Nat.pow_succ, Nat.mul_comm _ 256,
      Nat.mod_mul]
    omega

/-- Numbers that fit the width and have the same big endian form are equal. -/
theorem bigEndian_inj {width m n : Nat} (hm : m < 256 ^ width) (hn : n < 256 ^ width)
    (h : bigEndian width m = bigEndian width n) : m = n := by
  have := congrArg Bytes.toNat h
  rwa [toNat_bigEndian, toNat_bigEndian, Nat.mod_eq_of_lt hm, Nat.mod_eq_of_lt hn] at this

namespace Hash

@[simp] theorem ofBytes_bytes (h : Hash) : ofBytes h.bytes = h := by
  have lt : h.bits.toNat < 256 ^ 32 := h.bits.isLt
  rw [ofBytes, bytes, toNat_bigEndian, Nat.mod_eq_of_lt lt, BitVec.ofNat_toNat, BitVec.setWidth_eq]

theorem ofBytes?_bytes (h : Hash) : ofBytes? h.bytes = some h := by
  rw [ofBytes?, if_pos h.length_bytes, ofBytes_bytes]

/-- Hashes with the same bytes are equal. -/
theorem bytes_inj {a b : Hash} (h : a.bytes = b.bytes) : a = b := by
  rw [← ofBytes_bytes a, h, ofBytes_bytes]

end Hash

namespace Address

@[simp] theorem ofBytes_bytes (a : Address) : ofBytes a.bytes = a := by
  have lt : a.bits.toNat < 256 ^ 20 := a.bits.isLt
  rw [ofBytes, bytes, toNat_bigEndian, Nat.mod_eq_of_lt lt, BitVec.ofNat_toNat, BitVec.setWidth_eq]

/-- Addresses with the same bytes are equal. -/
theorem bytes_inj {a b : Address} (h : a.bytes = b.bytes) : a = b := by
  rw [← ofBytes_bytes a, h, ofBytes_bytes]

end Address

/-- Amounts with the same bytes are equal. -/
theorem Amount.bytes_inj {a b : Amount} (h : a.bytes = b.bytes) : a = b :=
  BitVec.eq_of_toNat_eq (bigEndian_inj a.isLt b.isLt h)

/-- A quantity keeps its value as an amount. -/
theorem Amount.toNat_ofQuantity (q : Quantity) : (ofQuantity q).toNat = q.toNat := by
  have fits : q.toNat < 2 ^ 256 := Nat.lt_of_lt_of_le q.toNat_lt (by decide)
  rw [ofQuantity, BitVec.toNat_ofNat, Nat.mod_eq_of_lt fits]

/-- Quantities with the same bytes are equal. -/
theorem Quantity.bytes_inj {a b : Quantity} (h : a.bytes = b.bytes) : a = b :=
  UInt64.toNat_inj.mp (bigEndian_inj a.toNat_lt b.toNat_lt h)

/-- Quantities with the same word are equal. -/
theorem Quantity.word_inj {a b : Quantity} (h : a.word = b.word) : a = b := by
  have lt : ∀ q : Quantity, q.toNat < 256 ^ 32 := fun q =>
    Nat.lt_of_lt_of_le q.toNat_lt (by decide)
  exact UInt64.toNat_inj.mp (bigEndian_inj (lt a) (lt b) h)

end PaymentChannel
