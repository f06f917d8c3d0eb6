import PaymentChannel.Quantity
import PaymentChannel.Signature.Key
import PaymentChannel.Node.Error
import PaymentChannel.Text.Quoted

/-!
# Failures of remote calls

* `RpcError` : why a remote call fails.
* `RpcError.toNodeError` : what the failure means for the caller. Whatever keeps the call from
  reaching the node makes the node unavailable.
-/

namespace PaymentChannel

inductive RpcError where
  | unreachable
  /-- A response is not what was asked for, with a text that says why. -/
  | decoder (text : String)
  /-- The response to this call is not what was asked for. -/
  | undecodable
  | invalidResponse (text : String)
  | transport (text : String)
  | status (code : Nat)
  | refused (code : Int) (text : String)
  | io (text : String)
  | recovery (error : RecoveryError)
  | internal
  deriving DecidableEq

namespace RpcError

/-- The name of an error code, or the code of a server's own error. -/
def codeText (code : Int) : String :=
  if code = -32700 then "ParseError"
  else if code = -32600 then "InvalidRequest"
  else if code = -32601 then "MethodNotFound"
  else if code = -32602 then "InvalidParams"
  else if code = -32603 then "InternalError"
  else
    let sign := if code < 0 then "-" else ""
    "ServerError(" ++ sign ++ Decimal.text code.natAbs ++ ")"

def message : RpcError → String
  | unreachable => "Server is unreachable"
  | decoder text => "Decoder error: " ++ text
  | undecodable => "Decoder error"
  | invalidResponse text => "Got invalid response: " ++ text
  | transport text => text
  | status code => "code " ++ Decimal.text code
  | refused code text =>
    "RPC error: Error \x7b code: " ++ codeText code ++ ", message: " ++ Quoted.text text ++
      ", data: None \x7d"
  | io text => "IO error: " ++ text
  | recovery error => "Recovery error: " ++ error.message
  | internal => "Internal Web3 error"

def toNodeError (e : RpcError) : NodeError :=
  match e with
  | unreachable | transport _ | status _ | io _ => .unavailable e.message
  | recovery _ => .signing e.message
  | decoder _ | undecodable | invalidResponse _ | refused .. | internal => .rpc e.message

end RpcError

inductive RpcFailure where
  | remote (error : RpcError)
  | arithmetic (error : ArithmeticError)
  deriving DecidableEq

end PaymentChannel
