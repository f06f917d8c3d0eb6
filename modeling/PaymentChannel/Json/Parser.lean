import PaymentChannel.Json.Basic
import PaymentChannel.Text.Hex

/-!
# Reading JSON

* `Json.parse?` : the value that a text writes, or nothing if the text is not one JSON value.

Every reader takes the remaining text and returns what it read with the text behind it. Of several
members of one name the last counts. Escapes of two surrogates stand for one character, and a
surrogate that stands alone is refused.
-/

namespace PaymentChannel.Json

def isBlank (c : Char) : Bool := c == ' ' || c == '\t' || c == '\n' || c == '\r'

def skipBlanks (text : List Char) : List Char := text.dropWhile isBlank

def digits? (text : List Char) : Option (List Char × List Char) :=
  let digits := text.takeWhile Char.isDigit
  if digits.isEmpty then none else some (digits, text.dropWhile Char.isDigit)

/-- The whole part of a number: zero, or digits that start with another digit. -/
def wholePart? (text : List Char) : Option (List Char × List Char) :=
  match text with
  | '0' :: rest => some (['0'], rest)
  | _ => digits? text

def fraction? (text : List Char) : Option (List Char × List Char) :=
  match text with
  | '.' :: rest => (digits? rest).map fun (digits, rest) => ('.' :: digits, rest)
  | _ => some ([], text)

def exponent? (text : List Char) : Option (List Char × List Char) :=
  match text with
  | mark :: rest =>
    if mark == 'e' || mark == 'E' then
      let (sign, rest) := match rest with
        | '+' :: rest => (['+'], rest)
        | '-' :: rest => (['-'], rest)
        | _ => ([], rest)
      (digits? rest).map fun (digits, rest) => (mark :: sign ++ digits, rest)
    else some ([], text)
  | [] => some ([], [])

/-- A number. Whole numbers below `2 ^ 64` without sign, fraction and exponent become naturals. -/
def number? (text : List Char) : Option (Json × List Char) := do
  let (sign, rest) := match text with
    | '-' :: rest => (['-'], rest)
    | _ => ([], text)
  let (whole, rest) ← wholePart? rest
  let (fraction, rest) ← fraction? rest
  let (exponent, rest) ← exponent? rest
  let value := Nat.ofDigitChars 10 whole 0
  if sign.isEmpty && fraction.isEmpty && exponent.isEmpty && value < UInt64.size then
    return (natural (UInt64.ofNat value), rest)
  else
    return (otherNumber (String.ofList (sign ++ whole ++ fraction ++ exponent)), rest)

def simpleEscape? : Char → Option Char
  | '"' => some '"'
  | '\\' => some '\\'
  | '/' => some '/'
  | 'b' => some '\x08'
  | 'f' => some '\x0c'
  | 'n' => some '\n'
  | 'r' => some '\r'
  | 't' => some '\t'
  | _ => none

/-- The rest of a string up to its closing quote. `high` is a first surrogate that still waits for
its second one, `read` holds the characters so far, last one first. -/
def stringRest (high : Option Nat) (read : List Char) : List Char → Option (String × List Char)
  | '"' :: rest => if high.isSome then none else some (String.ofList read.reverse, rest)
  | '\\' :: 'u' :: a :: b :: c :: d :: rest =>
    match Hex.toNat? [a, b, c, d], high with
    | some unit, none =>
      if 0xD800 ≤ unit ∧ unit < 0xDC00 then stringRest (some unit) read rest
      else if 0xDC00 ≤ unit ∧ unit < 0xE000 then none
      else stringRest none (Char.ofNat unit :: read) rest
    | some unit, some first =>
      if 0xDC00 ≤ unit ∧ unit < 0xE000 then
        let code := 0x10000 + (first - 0xD800) * 0x400 + (unit - 0xDC00)
        stringRest none (Char.ofNat code :: read) rest
      else none
    | none, _ => none
  | '\\' :: mark :: rest =>
    match simpleEscape? mark, high with
    | some c, none => stringRest none (c :: read) rest
    | _, _ => none
  | c :: rest =>
    if high.isSome || c == '\\' || c.toNat < 32 then none else stringRest none (c :: read) rest
  | [] => none

/-- The members with one more, which takes the place of an earlier one of its name. -/
def putMember (members : List (String × Json)) (name : String) (value : Json) :
    List (String × Json) :=
  members.filter (·.1 != name) ++ [(name, value)]

mutual
/-- A value behind leading blanks. The first argument bounds the number of values on the way, and the
length of the text is always enough. -/
def value? : Nat → List Char → Option (Json × List Char)
  | 0, _ => none
  | fuel + 1, text =>
    match skipBlanks text with
    | 'n' :: 'u' :: 'l' :: 'l' :: rest => some (null, rest)
    | 't' :: 'r' :: 'u' :: 'e' :: rest => some (bool true, rest)
    | 'f' :: 'a' :: 'l' :: 's' :: 'e' :: rest => some (bool false, rest)
    | '"' :: rest => (stringRest none [] rest).map fun (s, rest) => (string s, rest)
    | '[' :: rest =>
      match skipBlanks rest with
      | ']' :: rest => some (array [], rest)
      | rest => values? fuel [] rest
    | '\x7b' :: rest =>
      match skipBlanks rest with
      | '\x7d' :: rest => some (object [], rest)
      | rest => members? fuel [] rest
    | rest => number? rest

/-- The values of an array up to its closing bracket, with those read before in reverse. -/
def values? : Nat → List Json → List Char → Option (Json × List Char)
  | 0, _, _ => none
  | fuel + 1, read, text => do
    let (value, rest) ← value? fuel text
    match skipBlanks rest with
    | ',' :: rest => values? fuel (value :: read) rest
    | ']' :: rest => return (array (value :: read).reverse, rest)
    | _ => none

/-- The members of an object up to its closing brace, with those read before. -/
def members? : Nat → List (String × Json) → List Char → Option (Json × List Char)
  | 0, _, _ => none
  | fuel + 1, read, text => do
    match skipBlanks text with
    | '"' :: rest =>
      let (name, rest) ← stringRest none [] rest
      match skipBlanks rest with
      | ':' :: rest =>
        let (value, rest) ← value? fuel rest
        let read := putMember read name value
        match skipBlanks rest with
        | ',' :: rest => members? fuel read rest
        | '\x7d' :: rest => return (object read, rest)
        | _ => none
      | _ => none
    | _ => none
end

def parse? (text : String) : Option Json := do
  let chars := text.toList
  let (value, rest) ← value? (chars.length + 1) chars
  if (skipBlanks rest).isEmpty then some value else none

end PaymentChannel.Json
