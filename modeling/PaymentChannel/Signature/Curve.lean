/-!
# The curve secp256k1

The curve `y ^ 2 = x ^ 3 + 7` over the field of `fieldOrder` elements, with a generator of prime
order `groupOrder`.

* `Curve.Point` : a point in Jacobian coordinates, `(x / z ^ 2, y / z ^ 3)`, infinite for `z = 0`.
* `Curve.multiply` : a multiple of a point by doubling and adding.
* `Curve.lift?` : the point with a given first coordinate and a given parity of the second one.

Field elements are numbers below `fieldOrder`.
-/

namespace PaymentChannel.Curve

def fieldOrder : Nat := 0xFFFFFFFFFFFFFFFFFFFFFFFFFFFFFFFFFFFFFFFFFFFFFFFFFFFFFFFEFFFFFC2F

def groupOrder : Nat := 0xFFFFFFFFFFFFFFFFFFFFFFFFFFFFFFFEBAAEDCE6AF48A03BBFD25E8CD0364141

/-- The last `bits` binary digits of the exponent as a power modulo `m`. -/
def power (m base : Nat) : (bits : Nat) → (exponent : Nat) → Nat
  | 0, _ => 1 % m
  | bits + 1, exponent =>
    let half := power m base bits (exponent / 2)
    let square := half * half % m
    if exponent % 2 = 1 then square * base % m else square

/-- The inverse modulo a prime of at most 256 bits. -/
def inverse (prime a : Nat) : Nat := power prime a 256 (prime - 2)

def sub (a b : Nat) : Nat := (a + (fieldOrder - b)) % fieldOrder

def mul (a b : Nat) : Nat := a * b % fieldOrder

/-- A point in Jacobian coordinates. -/
structure Point where
  (x y z : Nat)
  deriving DecidableEq

namespace Point

def infinity : Point := ⟨1, 1, 0⟩

def double (a : Point) : Point :=
  if a.z = 0 ∨ a.y = 0 then infinity
  else
    let yy := mul a.y a.y
    let s := mul 4 (mul a.x yy)
    let m := mul 3 (mul a.x a.x)
    let x := sub (mul m m) (mul 2 s)
    ⟨x, sub (mul m (sub s x)) (mul 8 (mul yy yy)), mul 2 (mul a.y a.z)⟩

def add (a b : Point) : Point :=
  if a.z = 0 then b
  else if b.z = 0 then a
  else
    let aa := mul a.z a.z
    let bb := mul b.z b.z
    let u1 := mul a.x bb
    let u2 := mul b.x aa
    let s1 := mul a.y (mul bb b.z)
    let s2 := mul b.y (mul aa a.z)
    if u1 = u2 then
      if s1 = s2 then a.double else infinity
    else
      let h := sub u2 u1
      let r := sub s2 s1
      let hh := mul h h
      let hhh := mul hh h
      let v := mul u1 hh
      let x := sub (sub (mul r r) hhh) (mul 2 v)
      ⟨x, sub (mul r (sub v x)) (mul s1 hhh), mul h (mul a.z b.z)⟩

def neg (a : Point) : Point := ⟨a.x, sub 0 a.y, a.z⟩

/-- The two coordinates of a point that is not infinite. -/
def affine? (a : Point) : Option (Nat × Nat) :=
  if a.z = 0 then none
  else
    let w := inverse fieldOrder a.z
    let ww := mul w w
    some (mul a.x ww, mul a.y (mul ww w))

end Point

def generator : Point :=
  ⟨0x79BE667EF9DCBBAC55A06295CE870B07029BFCDB2DCE28D959F2815B16F81798,
   0x483ADA7726A3C4655DA4FBFC0E1108A8FD17B448A68554199C47D08FFB10D4B8, 1⟩

/-- The multiple of a point by the last `bits` binary digits of a number. -/
def multiplyBits (a : Point) : (bits : Nat) → Nat → Point
  | 0, _ => .infinity
  | bits + 1, k =>
    let twice := (multiplyBits a bits (k / 2)).double
    if k % 2 = 1 then twice.add a else twice

/-- The multiple of a point by a number below `2 ^ 256`. -/
def multiply (k : Nat) (a : Point) : Point := multiplyBits a 256 k

/-- The point with first coordinate `x` whose second coordinate is odd or even as asked. -/
def lift? (x : Nat) (odd : Bool) : Option Point :=
  let square := (mul x (mul x x) + 7) % fieldOrder
  let root := power fieldOrder square 256 ((fieldOrder + 1) / 4)
  if x < fieldOrder ∧ mul root root = square then
    some ⟨x, if (root % 2 == 1) == odd then root else sub 0 root, 1⟩
  else none

end PaymentChannel.Curve
