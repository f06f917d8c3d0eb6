import PaymentChannel.Client.Redialing
import PaymentChannel.Dispute.Service
import PaymentChannel.Scenario.Node

/-!
# Running dialogues against a scripted node

* `Scenario` : a scripted node, a clock and the nonce of an account.
* `ScenarioM` : computations in a scenario, which end early at a deadline.
* `Scenario.answer` : answers the steps of an account.
* `Scenario.forward` : makes a call through a client that redials.

The clock counts milliseconds and moves on only while something is waited for. What is over exactly
at a deadline is in time.
-/

namespace PaymentChannel

structure Scenario where
  node : ScriptedNode
  /-- The time in milliseconds. -/
  now : Nat := 0
  deadline : Option Nat := none
  /-- What the node was asked, latest first. -/
  asked : List Request := []
  nextNonce : Amount := 0

inductive Interruption where
  | elapsed
  | arithmetic (error : ArithmeticError)
  deriving DecidableEq

abbrev ScenarioM : Type → Type := ExceptT Interruption (StateM Scenario)

namespace Scenario

/-- Lets the clock move on, at most to the deadline. -/
def wait (milliseconds : Nat) : ScenarioM Unit := do
  let scenario ← get
  let finish := scenario.now + milliseconds
  match scenario.deadline with
  | some deadline =>
    if deadline < finish then
      set { scenario with now := deadline }
      throw .elapsed
    else set { scenario with now := finish }
  | none => set { scenario with now := finish }

def perform (request : Request) : ScenarioM (NodeAnswer request.Answer) := do
  let scenario ← get
  let outcome := (scenario.node.script.outcomes request.name).headD .normal
  set { scenario with
    node := { scenario.node with script := scenario.node.script.advance request.name }
    asked := request :: scenario.asked }
  match outcome with
  | .failure e => return .error e
  | outcome => do
    if let .delayed milliseconds := outcome then wait milliseconds
    modifyGet fun scenario =>
      let (answer, node) := scenario.node.serve outcome request
      (answer, { scenario with node })

/-- Asks for a receipt until the transaction is mined, at most the given number of times. -/
def pollReceipt (interval : Duration) (hash : Hash) : (polls : Nat) → ScenarioM (NodeAnswer Receipt)
  | 0 => throw .elapsed
  | polls + 1 => do
    match Receipt.awaited? (← perform (.call (.transactionReceipt hash))) with
    | some result => return result
    | none =>
      wait interval.milliseconds
      pollReceipt interval hash polls

/-- Asks for a receipt until the transaction is mined. Every receipt that is late is scripted, so
that there are at most as many of them as scripted outcomes. -/
def awaitReceipt (interval : Duration) (hash : Hash) : ScenarioM (NodeAnswer Receipt) := do
  let outcomes := (← get).node.script.outcomes "transaction_receipt"
  pollReceipt interval hash (outcomes.length + 1)

def commitNonce : ScenarioM Unit := do
  let scenario ← get
  match scenario.nextNonce.successor with
  | .ok next => set { scenario with nextNonce := next }
  | .error e => throw (.arithmetic e)

def answer (interval : Duration) : (action : Action) → ScenarioM action.Answer
  | .call nodeCall => perform (.call nodeCall)
  | .awaitReceipt hash => awaitReceipt interval hash
  | .reserveNonce => return (← get).nextNonce
  | .commitNonce => commitNonce
  | .releaseNonce => pure ()

def run {α : Type} (interval : Duration) (dialogue : AccountDialogue α) : ScenarioM α :=
  dialogue.run (answer interval)

/-- Runs a computation for at most the given time. The result is `none` if it takes longer. -/
def within {α : Type} (milliseconds : Nat) (computation : ScenarioM α) : ScenarioM (Option α) := do
  let outer := (← get).deadline
  modify fun scenario => { scenario with deadline := some (scenario.now + milliseconds) }
  let result : Except Interruption α ← ExceptT.lift computation.run
  modify fun scenario => { scenario with deadline := outer }
  match result with
  | .ok value => return some value
  | .error .elapsed => return none
  | .error e => throw e

def submit (interval : Duration) (service : DisputeService) (identifier : Hash)
    (change : StateChange) : ScenarioM (Except ServiceError (List Hash) × DisputeService) := do
  match service.channel identifier with
  | .error e => return (.error e, service)
  | .ok channel =>
    let result ← within service.config.transactionTimeout.milliseconds
      (run interval (channel.submit service.key change).run)
    return service.conclude identifier change result

/-! ## A client that redials -/

abbrev ClientM : Type → Type := StateT (RedialingClient Unit) ScenarioM

def change {α : Type} (step : RedialingClient Unit → RedialingClient Unit × α) : ClientM α :=
  modifyGet fun client => (step client).swap

def dialUpTo (config : ChainClientConfig) : (dials attempt : Nat) → ClientM (NodeAnswer Unit)
  | 0, _ => throw .elapsed
  | dials + 1, attempt => do
    let outcome : NodeAnswer Unit ← perform .connect
    match ← change fun client => client.dialed config.maxReconnectAttempts attempt outcome with
    | .established _ => return .ok ()
    | .gaveUp e => return .error e
    | .again attempt =>
      wait config.reconnectInterval.milliseconds
      dialUpTo config dials attempt

/-- Dials until there is a connection or the client gives up. Every failed dial is scripted. -/
def dial (config : ChainClientConfig) (attempt : Nat) : ClientM (NodeAnswer Unit) := do
  let scenario : Scenario ← getThe Scenario
  dialUpTo config ((scenario.node.script.outcomes "connect").length + 1) attempt

def callUpTo (config : ChainClientConfig) (request : Request) :
    (calls : Nat) → ClientM (NodeAnswer request.Answer)
  | 0 => throw .elapsed
  | calls + 1 => do
    if let .dialing attempt ← change RedialingClient.begin then
      if let .error e ← dial config attempt then return .error e
    let answer ← perform request
    match ← change fun client => client.answered answer with
    | some answer => return answer
    | none => callUpTo config request calls

/-- Makes a call through the client. Every unavailable answer is scripted. -/
def forward (config : ChainClientConfig) (request : Request) :
    ClientM (NodeAnswer request.Answer) := do
  let scenario : Scenario ← getThe Scenario
  callUpTo config request ((scenario.node.script.outcomes request.name).length + 1)

def recoverDisconnect (config : ChainClientConfig) : ClientM (NodeAnswer Unit) := do
  if let .dialing attempt ← change fun client => client.disconnect.begin then dial config attempt
  else return .ok ()

/-- Connects a client, or fails at the first failed dial. -/
def connect : ScenarioM (NodeAnswer (RedialingClient Unit)) := do
  let outcome : NodeAnswer Unit ← perform .connect
  return outcome.map RedialingClient.ofConnection

end Scenario

end PaymentChannel
