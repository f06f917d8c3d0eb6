import PaymentChannel.Bytes

/-!
# Hexadecimal text

* `Hex.digit?` : the value of one digit of either letter case.
* `Hex.toNat?` : the number that a run of digits writes.
* `Hex.toBytes?` : the bytes that an even run of digits writes.
* `Hex.ofNat`, `Hex.ofBytes` : the written forms, in lower case.
* `Hex.unmarked` : the text behind the mark `0x`, if there is one.
-/

namespace PaymentChannel.Hex

def digit? (c : Char) : Option Nat :=
  if '0' ≤ c ∧ c ≤ '9' then some (c.toNat - '0'.toNat)
  else if 'a' ≤ c ∧ c ≤ 'f' then some (c.toNat - 'a'.toNat + 10)
  else if 'A' ≤ c ∧ c ≤ 'F' then some (c.toNat - 'A'.toNat + 10)
  else none

/-- The number that the digits write; no digits write zero. -/
def toNat? (digits : List Char) : Option Nat :=
  digits.foldlM (fun n c => (digit? c).map (16 * n + ·)) 0

/-- The bytes that the digits write, two digits for each byte. -/
def toBytes? : List Char → Option Bytes
  | [] => some []
  | high :: low :: rest => do
    let h ← digit? high
    let l ← digit? low
    return UInt8.ofNat (16 * h + l) :: (← toBytes? rest)
  | [_] => none

def ofNat (n : Nat) : List Char := Nat.toDigits 16 n

def ofByte (b : UInt8) : List Char :=
  [Nat.digitChar (b.toNat / 16), Nat.digitChar (b.toNat % 16)]

def ofBytes (bytes : Bytes) : List Char := bytes.flatMap ofByte

/-- The text behind the mark `0x`, or the text itself where the mark is missing. -/
def unmarked : List Char → List Char
  | '0' :: 'x' :: rest => rest
  | text => text

/-- The bytes in lower case behind the mark `0x`. -/
def marked (bytes : Bytes) : String := String.ofList ('0' :: 'x' :: ofBytes bytes)

def markedNat (n : Nat) : String := String.ofList ('0' :: 'x' :: ofNat n)

end PaymentChannel.Hex
