import PaymentChannel.Quantity

/-!
# 256-bit amounts

* `Amount` : token amounts, gas, prices and account nonces.
* `Amount.saturatingAdd`, `Amount.saturatingSub`, `Amount.saturatingMul` : results cut off at the
  ends of the range.
* `Amount.successor` : the next amount, or `ArithmeticError.overflow`.
-/

namespace PaymentChannel

abbrev Amount := BitVec 256

namespace Amount

def largest : Amount := BitVec.allOnes 256

/-- The amount with the given value, or the largest amount where the value is larger. -/
def saturate (n : Nat) : Amount := BitVec.ofNat 256 (min n largest.toNat)

theorem toNat_saturate (n : Nat) : (saturate n).toNat = min n largest.toNat := by
  rw [saturate, BitVec.toNat_ofNat, Nat.mod_eq_of_lt]
  exact Nat.lt_of_le_of_lt (Nat.min_le_right _ _) largest.isLt

def saturatingAdd (a b : Amount) : Amount := saturate (a.toNat + b.toNat)

def saturatingSub (a b : Amount) : Amount := saturate (a.toNat - b.toNat)

def saturatingMul (a b : Amount) : Amount := saturate (a.toNat * b.toNat)

def successor (a : Amount) : Except ArithmeticError Amount :=
  if a = largest then .error .overflow else .ok (a + 1)

def least (a b : Amount) : Amount := if a ≤ b then a else b

def ofQuantity (q : Quantity) : Amount := BitVec.ofNat 256 q.toNat

/-- The last 64 bits of an amount. -/
def lowQuantity (a : Amount) : Quantity := UInt64.ofNat a.toNat

def toQuantity? (a : Amount) : Option Quantity := Quantity.ofNat? a.toNat

def text (a : Amount) : String := Decimal.text a.toNat

def bytes (a : Amount) : Bytes := bigEndian 32 a.toNat

/-- Reads 1 to 64 hexadecimal digits behind an optional mark. -/
def ofHex? (s : String) : Option Amount :=
  let digits := Hex.unmarked s.toList
  if digits.isEmpty || digits.length > 64 then none
  else (Hex.toNat? digits).map (BitVec.ofNat 256)

end Amount

/-- Amounts are written in hexadecimal behind `0x` without leading zeros. -/
instance : Codec Amount where
  encode a := .string (Hex.markedNat a.toNat)
  decode
    | .string s => Decoded.ofOption (Amount.ofHex? s)
    | _ => .error .form

end PaymentChannel
