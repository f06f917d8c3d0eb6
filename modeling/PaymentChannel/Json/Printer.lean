import PaymentChannel.Json.Basic

/-!
# Written JSON

* `Json.render` : the text of a value on one line, without blanks.
-/

namespace PaymentChannel.Json

def escape (c : Char) : String :=
  if c = '"' then "\\\""
  else if c = '\\' then "\\\\"
  else if c.toNat < 32 then
    "\\u00" ++ String.ofList [Nat.digitChar (c.toNat / 16), Nat.digitChar (c.toNat % 16)]
  else c.toString

def quote (s : String) : String :=
  s.toList.foldl (fun text c => text ++ escape c) "\"" ++ "\""

mutual
/-- The text of a value on one line, without blanks. -/
def render : Json → String
  | null => "null"
  | bool true => "true"
  | bool false => "false"
  | natural n => n.toNat.repr
  | otherNumber text => text
  | string s => quote s
  | array [] => "[]"
  | array (value :: rest) => "[" ++ render value ++ renderValues rest ++ "]"
  | object [] => "\x7b\x7d"
  | object ((name, value) :: rest) =>
    "\x7b" ++ quote name ++ ":" ++ render value ++ renderMembers rest ++ "\x7d"

def renderValues : List Json → String
  | [] => ""
  | value :: rest => "," ++ render value ++ renderValues rest

def renderMembers : List (String × Json) → String
  | [] => ""
  | (name, value) :: rest => "," ++ quote name ++ ":" ++ render value ++ renderMembers rest
end

end PaymentChannel.Json
