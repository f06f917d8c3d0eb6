import Mathlib.Algebra.Ring.Nat
import Mathlib.Data.List.Induction
import PaymentChannel.ChainId
import PaymentChannel.Hash

/-!
# Text forms

What is written in digits reads back.

* `Hex.toNat?_ofNat`, `Hex.toBytes?_ofBytes` : hexadecimal numbers and byte strings.
* `Hex.fixedBytes?_marked` : byte strings of a known length.
* `Quantity.ofDecimal?_eq` : reading digit by digit up to a bound is reading the number and
  comparing it with the bound.
* `Quantity.ofText?_text`, `Amount.ofHex?_markedNat`, `ChainId.ofText?_text` : quantities, amounts
  and the ids of chains with a 64-bit number.
-/

namespace PaymentChannel

namespace Hex

theorem digit?_digitChar {n : Nat} (h : n < 16) : digit? (Nat.digitChar n) = some n := by
  have all : ∀ n < 16, digit? (Nat.digitChar n) = some n := by decide
  exact all n h

theorem toNat?_append (digits : List Char) (c : Char) :
    toNat? (digits ++ [c]) = (toNat? digits).bind fun n => (digit? c).map (16 * n + ·) := by
  simp [toNat?, List.foldlM_append]

theorem toNat?_ofNat (n : Nat) : toNat? (ofNat n) = some n := by
  induction n using Nat.strongRecOn with
  | ind n ih =>
    rw [ofNat, Nat.toDigits_eq_if (by decide)]
    split
    · next small => simp [toNat?, digit?_digitChar small]
    · next large =>
      have front : toNat? (Nat.toDigits 16 (n / 16)) = some (n / 16) := ih _ (by omega)
      rw [toNat?_append, front, digit?_digitChar (Nat.mod_lt _ (by decide))]
      simp only [Option.bind_some, Option.map_some, Option.some.injEq]
      omega

theorem ofBytes_cons (b : UInt8) (rest : Bytes) : ofBytes (b :: rest) =
    Nat.digitChar (b.toNat / 16) :: Nat.digitChar (b.toNat % 16) :: ofBytes rest := rfl

theorem length_ofBytes (bytes : Bytes) : (ofBytes bytes).length = 2 * bytes.length := by
  induction bytes with
  | nil => rfl
  | cons b rest ih =>
    rw [ofBytes_cons, List.length_cons, List.length_cons, List.length_cons, ih]
    omega

theorem toBytes?_ofBytes (bytes : Bytes) : toBytes? (ofBytes bytes) = some bytes := by
  induction bytes with
  | nil => rfl
  | cons b rest ih =>
    have lt := b.toNat_lt
    have high : digit? (Nat.digitChar (b.toNat / 16)) = some (b.toNat / 16) :=
      digit?_digitChar (by omega)
    have low : digit? (Nat.digitChar (b.toNat % 16)) = some (b.toNat % 16) :=
      digit?_digitChar (by omega)
    have whole : 16 * (b.toNat / 16) + b.toNat % 16 = b.toNat := by omega
    rw [ofBytes_cons, toBytes?, high, low, ih]
    simp only [Option.bind_eq_bind, Option.bind_some, whole, UInt8.ofNat_toNat]
    rfl

theorem fixedBytes?_marked {bytes : Bytes} {length : Nat} (h : bytes.length = length) :
    fixedBytes? length (marked bytes) = some bytes := by
  simp [fixedBytes?, marked, unmarked, length_ofBytes, toBytes?_ofBytes, h]

end Hex

namespace Decimal

theorem toList_text (n : Nat) : (text n).toList = ofNat n := String.toList_ofList

theorem toNat?_append (digits : List Char) (c : Char) : toNat? (digits ++ [c]) =
    if c.isDigit then (toNat? digits).map (10 * · + (c.toNat - '0'.toNat)) else none := by
  by_cases front : digits.all Char.isDigit <;> by_cases last : c.isDigit <;>
    simp [toNat?, front, last, Nat.ofDigitChars_append, Nat.ofDigitChars_cons]

end Decimal

namespace Quantity

theorem ofNat?_toNat (q : Quantity) : ofNat? q.toNat = some q := by
  simp [ofNat?, q.toNat_lt_size]

theorem ofDecimal?_append (digits : List Char) (c : Char) :
    ofDecimal? (digits ++ [c]) = (ofDecimal? digits).bind (appendDigit? · c) := by
  simp [ofDecimal?, List.foldlM_append]

/-- A number that no longer fits has no digit behind it with which it would. -/
theorem ofDecimal?_eq (digits : List Char) :
    ofDecimal? digits = (Decimal.toNat? digits).bind ofNat? := by
  induction digits using List.reverseRecOn with
  | nil => rfl
  | append_singleton digits c ih =>
    rw [ofDecimal?_append, ih, Decimal.toNat?_append]
    by_cases digit : c.isDigit
    · cases Decimal.toNat? digits with
      | none => simp [digit]
      | some n =>
        by_cases fits : n < UInt64.size
        · have same : (UInt64.ofNat n).toNat = n := UInt64.toNat_ofNat_of_lt' fits
          simp [digit, ofNat?, fits, appendDigit?, same]
        · have longer : ¬ 10 * n + (c.toNat - '0'.toNat) < UInt64.size := by omega
          simp only [digit, if_true, Option.bind_some, Option.map_some, ofNat?, if_neg fits,
            if_neg longer, Option.bind_none]
    · simp [digit, appendDigit?]

theorem ofText?_text (q : Quantity) : ofText? q.text = some q := by
  have digits : ofDecimal? q.text.toList = some q := by
    rw [text, Decimal.toList_text, ofDecimal?_eq, Decimal.toNat?_ofNat, Option.bind_some,
      ofNat?_toNat]
  rw [ofText?, digits]

end Quantity

theorem Amount.ofHex?_markedNat (a : Amount) : ofHex? (Hex.markedNat a.toNat) = some a := by
  have digits : Hex.unmarked (Hex.markedNat a.toNat).toList = Hex.ofNat a.toNat := by
    simp [Hex.markedNat, Hex.unmarked]
  have nonempty : (Hex.ofNat a.toNat).isEmpty = false := by
    simp [Hex.ofNat, Nat.toDigits_ne_nil]
  have short : (Hex.ofNat a.toNat).length ≤ 64 :=
    (Nat.length_toDigits_le_iff (by decide) (by decide)).mpr a.isLt
  simp [ofHex?, digits, nonempty, short, Hex.toNat?_ofNat]

/-- The text of a 64-bit number reads back as the chain of that number. -/
theorem ChainId.ofText?_text (q : Quantity) : ofText? q.text = some (ofQuantity q) := by
  have unsigned : ∀ rest, Decimal.ofNat q.toNat ≠ '+' :: rest := by
    intro rest h
    have sign : '+' ∈ Decimal.ofNat q.toNat := h ▸ List.mem_cons_self
    exact absurd (Nat.isDigit_of_mem_toDigits (by decide) (by decide) sign) (by decide)
  have nonempty : (Decimal.ofNat q.toNat).isEmpty = false := by
    simp [Decimal.ofNat, Nat.toDigits_ne_nil]
  rw [ofText?, Quantity.text, Decimal.toList_text]
  split
  · next h => exact absurd h (unsigned _)
  · simp [nonempty, Quantity.ofNat?_toNat]

end PaymentChannel
