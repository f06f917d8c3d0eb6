import PaymentChannel.Text.Decimal
import PaymentChannel.Json.Codec

/-!
# Durations

* `Duration` : a length of time in nanoseconds.
* `Duration.milliseconds` : the ticks of a clock of milliseconds that cover a duration.
* `Duration.text` : the duration in its largest whole unit, such as `2.25s` or `50ms`.
-/

namespace PaymentChannel

def nanosecondsPerSecond : Nat := 1000000000

/-- A length of time of less than `2 ^ 64` seconds. -/
structure Duration where
  nanoseconds : Nat
  lt : nanoseconds < UInt64.size * nanosecondsPerSecond
  deriving DecidableEq

namespace Duration

def ofSeconds (seconds : UInt64) : Duration :=
  ⟨seconds.toNat * nanosecondsPerSecond,
    Nat.mul_lt_mul_of_pos_right seconds.toNat_lt_size (by decide)⟩

def ofParts? (seconds nanoseconds : Nat) : Option Duration :=
  if h : seconds * nanosecondsPerSecond + nanoseconds < UInt64.size * nanosecondsPerSecond then
    some ⟨_, h⟩
  else none

/-- The whole milliseconds that cover the duration. -/
def milliseconds (d : Duration) : Nat := (d.nanoseconds + 999999) / 1000000

def trimZeros (digits : List Char) : List Char := (digits.reverse.dropWhile (· = '0')).reverse

/-- A number of nanoseconds that holds a whole unit, in that unit. The last `places` of its digits
stand behind the point. -/
def inUnit (places : Nat) (unit : String) (n : Nat) : String :=
  let digits := Decimal.ofNat n
  let whole := digits.length - places
  let fraction := trimZeros (digits.drop whole)
  let behind := if fraction.isEmpty then "" else "." ++ String.ofList fraction
  String.ofList (digits.take whole) ++ behind ++ unit

/-- The duration in the largest unit of which it holds a whole one. -/
def text (d : Duration) : String :=
  if nanosecondsPerSecond ≤ d.nanoseconds then inUnit 9 "s" d.nanoseconds
  else if 1000000 ≤ d.nanoseconds then inUnit 6 "ms" d.nanoseconds
  else if 1000 ≤ d.nanoseconds then inUnit 3 "µs" d.nanoseconds
  else inUnit 0 "ns" d.nanoseconds

end Duration

def Json.decodeBelow (bound : Nat) : Json → Decoded Nat
  | .natural n => if n.toNat < bound then .ok n.toNat else .error .form
  | _ => .error .form

/-- Durations are written as seconds and nanoseconds. Both are required and nothing else is
allowed; nanoseconds that fill a second count as one. -/
instance : Codec Duration where
  encode d := .object [
    ("secs", .count (d.nanoseconds / nanosecondsPerSecond)),
    ("nanos", .count (d.nanoseconds % nanosecondsPerSecond))]
  decode
    | .object members => do
      if members.any fun m => m.1 ≠ "secs" ∧ m.1 ≠ "nanos" then .error .form
      let (seconds, nanoseconds) ← Fields.run (Prod.mk
        <$> .memberBy (Json.decodeBelow UInt64.size) "secs"
        <*> .memberBy (Json.decodeBelow UInt32.size) "nanos") (.object members)
      Decoded.ofOption (Duration.ofParts? seconds nanoseconds)
    | _ => .error .form

end PaymentChannel
