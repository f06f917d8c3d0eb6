import PaymentChannel.Hash

/-!
# Keccak-256

* `Keccak.permute` : the permutation of 25 lanes of 64 bits, 24 rounds of `θ`, `ρ`, `π`, `χ`, `ι`.
* `keccak256` : the sponge with blocks of 136 bytes, whose padding starts with the byte `1`.

A state is five planes of five lanes. Its fields are read by name, so that the kernel can evaluate
the hash of a short message.
-/

namespace PaymentChannel

namespace Keccak

/-- Five values in a cycle. -/
structure Five (α : Type) where
  (a b c d e : α)

namespace Five

variable {α β γ : Type}

def map (f : α → β) (v : Five α) : Five β := ⟨f v.a, f v.b, f v.c, f v.d, f v.e⟩

def zipWith (f : α → β → γ) (v : Five α) (w : Five β) : Five γ :=
  ⟨f v.a w.a, f v.b w.b, f v.c w.c, f v.d w.d, f v.e w.e⟩

/-- In each place the value of the next one. -/
def next (v : Five α) : Five α := ⟨v.b, v.c, v.d, v.e, v.a⟩

/-- In each place the value of the one before. -/
def previous (v : Five α) : Five α := ⟨v.e, v.a, v.b, v.c, v.d⟩

end Five

abbrev Plane := Five UInt64

abbrev State := Five Plane

def Plane.add (p q : Plane) : Plane := p.zipWith (· ^^^ ·) q

/-- The lanes `(0, 0)` to `(4, 4)`. -/
def State.diagonal (s : State) : Plane := ⟨s.a.a, s.b.b, s.c.c, s.d.d, s.e.e⟩

def State.zero : State :=
  ⟨⟨0, 0, 0, 0, 0⟩, ⟨0, 0, 0, 0, 0⟩, ⟨0, 0, 0, 0, 0⟩, ⟨0, 0, 0, 0, 0⟩, ⟨0, 0, 0, 0, 0⟩⟩

/-- How far `ρ` turns each lane. -/
def turns : Five (Five Nat) :=
  ⟨⟨0, 1, 62, 28, 27⟩, ⟨36, 44, 6, 55, 20⟩, ⟨3, 10, 43, 25, 39⟩, ⟨41, 45, 15, 21, 8⟩,
   ⟨18, 2, 61, 56, 14⟩⟩

/-- What `ι` adds to the first lane, round by round. -/
def roundConstants : List UInt64 :=
  [0x0000000000000001, 0x0000000000008082, 0x800000000000808A, 0x8000000080008000,
   0x000000000000808B, 0x0000000080000001, 0x8000000080008081, 0x8000000000008009,
   0x000000000000008A, 0x0000000000000088, 0x0000000080008009, 0x000000008000000A,
   0x000000008000808B, 0x800000000000008B, 0x8000000000008089, 0x8000000000008003,
   0x8000000000008002, 0x8000000000000080, 0x000000000000800A, 0x800000008000000A,
   0x8000000080008081, 0x8000000000008080, 0x0000000080000001, 0x8000000080008008]

/-- A lane turned towards its high end. -/
def turnLeft (lane : UInt64) (n : Nat) : UInt64 :=
  if n = 0 then lane else lane <<< UInt64.ofNat n ||| lane >>> UInt64.ofNat (64 - n)

/-- `θ` adds the parities of two neighbouring columns to each lane. -/
def theta (s : State) : State :=
  let parity : Plane := (((s.a.add s.b).add s.c).add s.d).add s.e
  let mix := Plane.add parity.previous (parity.next.map (turnLeft · 1))
  s.map (Plane.add · mix)

def rho (s : State) : State := s.zipWith (Five.zipWith turnLeft) turns

/-- `π` moves the lanes: row `y` of the result is the diagonal that starts in column `3 * y`. -/
def pi (s : State) : State :=
  let fromColumn1 : State := s.map Five.next
  let fromColumn2 : State := fromColumn1.map Five.next
  let fromColumn3 : State := fromColumn2.map Five.next
  let fromColumn4 : State := s.map Five.previous
  ⟨s.diagonal, fromColumn3.diagonal, fromColumn1.diagonal, fromColumn4.diagonal,
   fromColumn2.diagonal⟩

/-- `χ` combines each lane with the next two of its row. -/
def chi (s : State) : State :=
  s.map fun row => Plane.add row (row.next.zipWith (fun x y => ~~~x &&& y) row.next.next)

def iota (constant : UInt64) (s : State) : State :=
  { s with a := { s.a with a := s.a.a ^^^ constant } }

def round (s : State) (constant : UInt64) : State := iota constant (chi (pi (rho (theta s))))

def permute (s : State) : State := roundConstants.foldl round s

/-- The number of bytes taken up by one block. -/
def rate : Nat := 136

/-- The message with its padding: a one bit behind the message and one at the end of the last
block. -/
def pad (message : Bytes) : Bytes :=
  let missing := rate - message.length % rate
  if missing = 1 then message ++ [0x81]
  else message ++ 0x01 :: List.replicate (missing - 2) 0 ++ [0x80]

/-- The lane that eight bytes form, least significant first. -/
def laneOfBytes (bytes : Bytes) : UInt64 :=
  bytes.foldr (fun b lane => lane <<< 8 ||| b.toUInt64) 0

def laneBytes (lane : UInt64) : Bytes := (bigEndian 8 lane.toNat).reverse

/-- The plane that the first 40 bytes form. Missing bytes are zero. -/
def Plane.ofBytes (bytes : Bytes) : Plane :=
  ⟨laneOfBytes (bytes.take 8), laneOfBytes ((bytes.drop 8).take 8),
   laneOfBytes ((bytes.drop 16).take 8), laneOfBytes ((bytes.drop 24).take 8),
   laneOfBytes ((bytes.drop 32).take 8)⟩

def State.ofBytes (bytes : Bytes) : State :=
  ⟨Plane.ofBytes bytes, Plane.ofBytes (bytes.drop 40), Plane.ofBytes (bytes.drop 80),
   Plane.ofBytes (bytes.drop 120), Plane.ofBytes (bytes.drop 160)⟩

def absorbBlock (s : State) (block : Bytes) : State :=
  permute (s.zipWith Plane.add (State.ofBytes block))

def absorb : (count : Nat) → State → Bytes → State
  | 0, s, _ => s
  | count + 1, s, bytes => absorb count (absorbBlock s (bytes.take rate)) (bytes.drop rate)

end Keccak

open Keccak in
def keccak256 (message : Bytes) : Hash :=
  let padded := pad message
  let s := absorb (padded.length / rate) State.zero padded
  Hash.ofBytes ([s.a.a, s.a.b, s.a.c, s.a.d].flatMap laneBytes)

end PaymentChannel
