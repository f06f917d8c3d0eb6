import PaymentChannel.Client.Signal
import PaymentChannel.Config
import PaymentChannel.Node.Error

/-!
# A client that redials

* `RedialingClient` : a client with at most one connection to a node.
* `RedialingClient.begin`, `answered`, `dialed` : what happens to the client as a call goes on.
* `RedialingClient.connect`, `announce` : the two halves of a dial that succeeds.
* `Stage` : what the call waits for next.

A call that finds the node unavailable gives up the connection and dials until there is another one;
then it is made again. One call is under way at a time, the others wait in order. The signals of the
client fire when a new connection is in place.
-/

namespace PaymentChannel

inductive ConnectionStatus where
  | connected
  | reconnecting
  | failed
  deriving DecidableEq

def ConnectionStatus.text : ConnectionStatus → String
  | connected => "connected"
  | reconnecting => "reconnecting"
  | failed => "failed"

structure RedialingClient (κ : Type) where
  connection : Option κ
  status : ConnectionStatus
  signals : SignalRegistry

/-- What a call that is under way waits for. -/
inductive Stage (κ : Type) where
  | invoking (connection : κ)
  /-- The outcome of a dial, counted from 1. -/
  | dialing (attempt : Nat)
  | pausing (attempt : Nat)
  deriving DecidableEq

inductive DialResult (κ : Type) where
  | established (connection : κ)
  | again (attempt : Nat)
  | gaveUp (error : NodeError)
  deriving DecidableEq

namespace RedialingClient

variable {κ : Type}

def unconnected : RedialingClient κ := ⟨none, .failed, .empty⟩

def ofConnection (connection : κ) : RedialingClient κ := ⟨some connection, .connected, .empty⟩

def startDialing (client : RedialingClient κ) : RedialingClient κ × Stage κ :=
  ({ client with status := .reconnecting }, .dialing 1)

/-- Starts a call over the connection, or starts to dial where there is none. -/
def begin (client : RedialingClient κ) : RedialingClient κ × Stage κ :=
  match client.connection with
  | some connection => (client, .invoking connection)
  | none => client.startDialing

def disconnect (client : RedialingClient κ) : RedialingClient κ :=
  { client with connection := none, status := .failed }

/-- Goes on with an answer. The call is over, unless the node is unavailable: then the connection is
given up and the call has to begin again. -/
def answered {ρ : Type} (client : RedialingClient κ) :
    NodeAnswer ρ → RedialingClient κ × Option (NodeAnswer ρ)
  | .error (.unavailable _) => (client.disconnect, none)
  | answer => (client, some answer)

/-- The error of a client that has dialed in vain for long enough. -/
def gaveUpAfter (attempt : Nat) : NodeError :=
  .unavailable ("Gave up connecting after " ++ Decimal.text attempt ++ " attempts")

def connect (client : RedialingClient κ) (connection : κ) : RedialingClient κ :=
  { client with connection := some connection, status := .connected }

/-- Fires the signals of the client. Returns their number. -/
def announce (client : RedialingClient κ) : Nat × RedialingClient κ :=
  let (count, signals) := client.signals.notifyAll
  (count, { client with signals })

/-- Goes on with the outcome of a dial. With a limit, the client gives up at the first failed
attempt that reaches it. -/
def dialed (client : RedialingClient κ) (limit : Option Nat) (attempt : Nat)
    (outcome : NodeAnswer κ) : RedialingClient κ × DialResult κ :=
  match outcome with
  | .ok connection => ((client.connect connection).announce.2, .established connection)
  | .error _ =>
    if limit.any (· ≤ attempt) then
      ({ client with status := .failed }, .gaveUp (gaveUpAfter attempt))
    else (client, .again (attempt + 1))

end RedialingClient

end PaymentChannel
