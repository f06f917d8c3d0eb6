/-!
# JSON values

* `Json` : a JSON value. A number is either a whole number below `2 ^ 64`, written without sign,
  fraction or exponent, or some other number, kept as written.
* `Json.member` : the value of an object's member; a missing member reads as `null`.
* `Json.tag?` : the name that stands for an alternative without fields.
-/

namespace PaymentChannel

/-- A JSON value. Object members keep the order in which they were written. -/
inductive Json where
  | null
  | bool (value : Bool)
  | natural (value : UInt64)
  | otherNumber (text : String)
  | string (value : String)
  | array (values : List Json)
  | object (members : List (String × Json))
  deriving Inhabited

namespace Json

/-- The whole number that a JSON number writes, if it has neither fraction nor exponent. -/
def toInt? : Json → Option Int
  | natural n => some n.toNat
  | otherNumber text => text.toInt?
  | _ => none

def count (n : Nat) : Json := natural (UInt64.ofNat n)

def compact (members : List (String × Option Json)) : Json :=
  object (members.filterMap fun (name, value) => value.map (name, ·))

def orNull : Option Json → Json
  | some value => value
  | none => null

/-- The value of an object's member. A missing member reads as `null`; only objects have members. -/
def member? (name : String) : Json → Option Json
  | object members => some ((members.lookup name).getD null)
  | _ => none

/-- The value of an object's member if it is present, be it `null`. -/
def present? (name : String) : Json → Option Json
  | object members => members.lookup name
  | _ => none

/-- The name that stands for an alternative without fields: a string, or an object whose only
member has that name and is `null`. -/
def tag? : Json → Option String
  | string name => some name
  | object [(name, null)] => some name
  | _ => none

def withMember (name : String) (value : Json) : Json → Json
  | object members => object ((name, value) :: members)
  | other => other

end Json

end PaymentChannel
