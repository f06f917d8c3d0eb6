import PaymentChannel.Text.Printable

/-!
# Quoted text

* `Quoted.text` : a text between quotes, in which everything that cannot be seen is escaped.

Quote, backslash and the common controls are escaped by a letter, and other characters that are not
printed by their hexadecimal code point.
-/

namespace PaymentChannel.Quoted

def escape (c : Char) : List Char :=
  match c with
  | '\x00' => ['\\', '0']
  | '\t' => ['\\', 't']
  | '\n' => ['\\', 'n']
  | '\r' => ['\\', 'r']
  | '"' => ['\\', '"']
  | '\\' => ['\\', '\\']
  | c =>
    if isPrintable c then [c]
    else ['\\', 'u', '\x7b'] ++ Nat.toDigits 16 c.toNat ++ ['\x7d']

def text (s : String) : String :=
  String.ofList ('"' :: s.toList.flatMap escape ++ ['"'])

end PaymentChannel.Quoted
