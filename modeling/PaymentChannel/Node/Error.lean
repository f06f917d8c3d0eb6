/-!
# Failed calls of a node

* `NodeError` : why a call of a node fails. Only an unavailable node is worth another attempt.
-/

namespace PaymentChannel

inductive NodeError where
  | unavailable (reason : String)
  /-- The node refuses the call, or its answer makes no sense. -/
  | rpc (reason : String)
  | signing (reason : String)
  deriving DecidableEq

namespace NodeError

def message : NodeError → String
  | unavailable reason => "Chain unavailable: `" ++ reason ++ "`"
  | rpc reason => "RPC error: `" ++ reason ++ "`"
  | signing reason => "Signing error: `" ++ reason ++ "`"

def isUnavailable : NodeError → Bool
  | unavailable _ => true
  | _ => false

end NodeError

abbrev NodeAnswer (α : Type) := Except NodeError α

end PaymentChannel
