import PaymentChannel.Node.Error

/-!
# Endpoints

* `Endpoint` : the address under which a node is reached.
* `Endpoint.dial` : dials a node without a network.
-/

namespace PaymentChannel

structure Endpoint where
  url : String
  deriving DecidableEq

/-- Dials a node without a network: no endpoint is within reach, readable or not. -/
def Endpoint.dial (endpoint : Endpoint) : NodeAnswer Unit :=
  .error (.unavailable ("failed to connect to " ++ endpoint.url))

end PaymentChannel
