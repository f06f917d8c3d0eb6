import PaymentChannel.Text.Decimal
import PaymentChannel.Json.Codec

/-!
# 64-bit quantities

* `Quantity` : block numbers, nonces and timeouts.
* `Quantity.saturatingAdd` : the sum, at most `Quantity.largest`.
* `Quantity.add`, `Quantity.sub`, `Quantity.mul` : exact results, or `ArithmeticError.overflow`.
* `Quantity.ofText?` : reads decimal digits, and as hexadecimal what does not read so.
-/

namespace PaymentChannel

abbrev Quantity := UInt64

abbrev BlockNumber := Quantity

abbrev BlockCount := Quantity

/-- The exact result of an operation does not fit. -/
inductive ArithmeticError where
  | overflow
  | narrowing
  deriving DecidableEq

def ArithmeticError.message : ArithmeticError → String
  | overflow => "arithmetic operation overflow"
  | narrowing => "Integer overflow when casting to u64"

namespace Quantity

def ofNat? (n : Nat) : Option Quantity :=
  if n < UInt64.size then some (UInt64.ofNat n) else none

def largest : Quantity := 0xFFFFFFFFFFFFFFFF

def saturatingAdd (a b : Quantity) : Quantity :=
  UInt64.ofNat (min (a.toNat + b.toNat) largest.toNat)

theorem toNat_saturatingAdd (a b : Quantity) :
    (a.saturatingAdd b).toNat = min (a.toNat + b.toNat) largest.toNat := by
  rw [saturatingAdd, UInt64.toNat_ofNat_of_lt']
  exact Nat.lt_of_le_of_lt (Nat.min_le_right _ _) largest.toNat_lt_size

/-- Up to a saturating sum is up to the exact one. -/
theorem le_saturatingAdd_iff {x a b : Quantity} :
    x ≤ a.saturatingAdd b ↔ x.toNat ≤ a.toNat + b.toNat := by
  have hx : x.toNat ≤ largest.toNat := Nat.le_of_lt_succ x.toNat_lt
  rw [UInt64.le_iff_toNat_le, toNat_saturatingAdd]
  omega

/-- The quantity with the given value, or an overflow. -/
def exact (n : Nat) : Except ArithmeticError Quantity :=
  match ofNat? n with
  | some q => .ok q
  | none => .error .overflow

def add (a b : Quantity) : Except ArithmeticError Quantity := exact (a.toNat + b.toNat)

def sub (a b : Quantity) : Except ArithmeticError Quantity :=
  if b ≤ a then exact (a.toNat - b.toNat) else .error .overflow

def mul (a b : Quantity) : Except ArithmeticError Quantity := exact (a.toNat * b.toNat)

def text (q : Quantity) : String := Decimal.text q.toNat

def bytes (q : Quantity) : Bytes := bigEndian 8 q.toNat

/-- The bytes of a quantity in a word of 32 bytes. -/
def word (q : Quantity) : Bytes := bigEndian 32 q.toNat

/-- Reads at most sixteen hexadecimal digits. -/
def ofHex? (digits : List Char) : Option Quantity :=
  if digits.length ≤ 16 then (Hex.toNat? digits).map UInt64.ofNat else none

/-- The quantity with one more decimal digit behind it, if the character is one and the number still
fits. -/
def appendDigit? (q : Quantity) (c : Char) : Option Quantity :=
  if c.isDigit then ofNat? (10 * q.toNat + (c.toNat - '0'.toNat)) else none

/-- Reads decimal digits from the first one on; no digits write zero. -/
def ofDecimal? (digits : List Char) : Option Quantity := digits.foldlM appendDigit? 0

/-- Reads a quantity from text: as decimal digits, or else as hexadecimal ones. -/
def ofText? (s : String) : Option Quantity :=
  match ofDecimal? s.toList with
  | some q => some q
  | none => ofHex? (Hex.unmarked s.toList)

end Quantity

/-- Quantities are written as decimal strings and read from strings or whole numbers. -/
instance : Codec Quantity where
  encode q := .string q.text
  decode
    | .natural q => .ok q
    | .string s => match Quantity.ofText? s with
      | some q => .ok q
      | none => .error .quantityText
    | _ => .error .form

end PaymentChannel
