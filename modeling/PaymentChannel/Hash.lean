import PaymentChannel.Amount

/-!
# Hashes

* `Hash` : 32 bytes, ordered like their bytes from the first one on.
* `Hash.bytes`, `Hash.ofBytes` : between a hash and its bytes.
* `Hash.text`, `Hash.shortText` : the hexadecimal text, in full and with the middle left out.
-/

namespace PaymentChannel

/-- A string of 32 bytes: a hash, a root or an identifier. -/
structure Hash where
  bits : BitVec 256
  deriving DecidableEq

namespace Hash

def zero : Hash := ⟨0⟩

instance : Inhabited Hash := ⟨zero⟩

def bytes (h : Hash) : Bytes := bigEndian 32 h.bits.toNat

/-- The hash with the given bytes, of which the last 32 count. -/
def ofBytes (bytes : Bytes) : Hash := ⟨BitVec.ofNat 256 bytes.toNat⟩

def ofBytes? (bytes : Bytes) : Option Hash :=
  if bytes.length = 32 then some (ofBytes bytes) else none

instance : LE Hash := ⟨fun a b => a.bits ≤ b.bits⟩

instance : LT Hash := ⟨fun a b => a.bits < b.bits⟩

instance (a b : Hash) : Decidable (a ≤ b) := inferInstanceAs (Decidable (a.bits ≤ b.bits))

instance (a b : Hash) : Decidable (a < b) := inferInstanceAs (Decidable (a.bits < b.bits))

def text (h : Hash) : String := Hex.marked h.bytes

/-- The text with all but the first two and the last two bytes left out. -/
def shortText (h : Hash) : String :=
  Hex.marked (h.bytes.take 2) ++ "…" ++ String.ofList (Hex.ofBytes (h.bytes.drop 30))

@[simp] theorem length_bytes (h : Hash) : h.bytes.length = 32 := length_bigEndian ..

end Hash

/-- Reads a byte string of a known length from hexadecimal digits behind an optional mark. -/
def Hex.fixedBytes? (length : Nat) (s : String) : Option Bytes :=
  let digits := Hex.unmarked s.toList
  if digits.length = 2 * length then Hex.toBytes? digits else none

instance : Codec Hash where
  encode h := .string h.text
  decode
    | .string s => Decoded.ofOption ((Hex.fixedBytes? 32 s).map Hash.ofBytes)
    | _ => .error .form

end PaymentChannel
