/-!
# Decimal text

* `Decimal.ofNat` : the digits of a number without leading zeros.
* `Decimal.toNat?` : the number that a run of digits writes.

`toNat?_ofNat` says that reading undoes writing.
-/

namespace PaymentChannel.Decimal

def ofNat (n : Nat) : List Char := Nat.toDigits 10 n

def text (n : Nat) : String := String.ofList (ofNat n)

/-- The number that the digits write; no digits write zero, and other characters are refused. -/
def toNat? (digits : List Char) : Option Nat :=
  if digits.all Char.isDigit then some (Nat.ofDigitChars 10 digits 0) else none

@[simp] theorem toNat?_ofNat (n : Nat) : toNat? (ofNat n) = some n := by
  have h : (Nat.toDigits 10 n).all Char.isDigit = true :=
    List.all_eq_true.2 fun _ hc => Nat.isDigit_of_mem_toDigits (by decide) (by decide) hc
  simp [toNat?, ofNat, h, Nat.ofDigitChars_ten_toDigits]

end PaymentChannel.Decimal
