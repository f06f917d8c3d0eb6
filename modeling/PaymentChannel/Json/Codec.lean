import PaymentChannel.Json.Basic
import PaymentChannel.Text.Hex

/-!
# Values with a JSON form

* `Codec` : a type with a JSON form that can be written and read.
* `DecodeError` : why a JSON value is refused.
* `Fields` : reads the members of an object, required ones and ones with a default.
* `Json.field` : reads one of them.

An optional value is written as `null` when it is absent, and reads as absent from `null` as well
as from a missing member.
-/

namespace PaymentChannel

inductive DecodeError where
  | form
  | quantityText
  | chainIdText
  deriving DecidableEq

def DecodeError.message? : DecodeError → Option String
  | form => none
  | quantityText => some "Could not parse U64 from string"
  | chainIdText => some "Could not parse ChainID from string"

abbrev Decoded := Except DecodeError

class Codec (α : Type) where
  encode : α → Json
  decode : Json → Decoded α

export Codec (encode decode)

def Decoded.ofOption {α : Type} : Option α → Decoded α
  | some value => .ok value
  | none => .error .form

/-- Reads members of an object. A refusal comes with the position of the refused member, so that of
several refused members the first one counts, and missing ones behind all others. -/
structure Fields (α : Type) where
  read : List (String × Json) → Except (Nat × DecodeError) α

namespace Fields

def apply {α β : Type} (f : Fields (α → β)) (a : Fields α) : Fields β where
  read members := match f.read members, a.read members with
    | .ok f, .ok a => .ok (f a)
    | .ok _, .error e => .error e
    | .error e, .ok _ => .error e
    | .error e, .error e' => .error (if e'.1 < e.1 then e' else e)

instance : Applicative Fields where
  pure a := ⟨fun _ => .ok a⟩
  seq f a := apply f (a ())

/-- Reads one member with the given reader. A missing member reads as `null`. -/
def memberBy {α : Type} (reader : Json → Decoded α) (name : String) : Fields α where
  read members := match reader ((members.lookup name).getD .null) with
    | .ok value => .ok value
    | .error e => .error (members.findIdx (·.1 == name), e)

def member {α : Type} [Codec α] (name : String) : Fields α := memberBy decode name

/-- Reads one member with the given reader, or takes the default where the member is missing. -/
def memberOr {α : Type} (reader : Json → Decoded α) (name : String) (default : α) : Fields α where
  read members := match members.lookup name with
    | none => .ok default
    | some json => match reader json with
      | .ok value => .ok value
      | .error e => .error (members.findIdx (·.1 == name), e)

def run {α : Type} (fields : Fields α) : Json → Decoded α
  | .object members => match fields.read members with
    | .ok value => .ok value
    | .error (_, e) => .error e
  | _ => .error .form

end Fields

export Fields (member)

def Json.field {α : Type} [Codec α] (json : Json) (name : String) : Decoded α :=
  (Fields.member name : Fields α).run json

instance {α : Type} [Codec α] : Codec (Option α) where
  encode
    | some value => encode value
    | none => .null
  decode
    | .null => .ok none
    | json => (decode json).map some

instance {α : Type} [Codec α] : Codec (List α) where
  encode values := .array (values.map encode)
  decode
    | .array values => values.mapM decode
    | _ => .error .form

/-- Byte strings are written in hexadecimal behind `0x`, which must be there. -/
instance : Codec Bytes where
  encode bytes := .string (Hex.marked bytes)
  decode
    | .string s => match s.toList with
      | '0' :: 'x' :: digits => Decoded.ofOption (Hex.toBytes? digits)
      | _ => .error .form
    | _ => .error .form

end PaymentChannel
