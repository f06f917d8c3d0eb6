import PaymentChannel.Account.Submission
import PaymentChannel.Channel.Transition
import PaymentChannel.Config

/-!
# The dispute service

* `ServiceError` : why the service refuses a request.
* `Channel.submit` : takes a step of our own and sends the calls that follow from it.
* `DisputeService` : the disputes of one account.

A step of our own is committed once all its calls are confirmed. A step that is refused, fails or
takes too long leaves the channel as it was. A step of the partner that was seen on the chain is
committed without calls.
-/

namespace PaymentChannel

inductive ServiceError where
  | transition (error : DisputeError)
  | transaction (error : TransactionError)
  | unconfirmed (step : String) (timeout : Duration)
  | channelNotFound (identifier : Hash)
  deriving DecidableEq

def ServiceError.message : ServiceError → String
  | transition error => "Transition Error: `" ++ error.message ++ "`"
  | transaction error => "Proxy error: `" ++ error.message ++ "`"
  | unconfirmed step timeout =>
    "Chain unavailable: `" ++ step ++ " was not confirmed within " ++ timeout.text ++ "`"
  | channelNotFound identifier => "Channel `" ++ identifier.text ++ "` not found"

abbrev ServiceDialogue : Type → Type := ExceptT ServiceError AccountDialogue

namespace ServiceDialogue

def ofSubmission {α : Type} (submission : Submission α) : ServiceDialogue α :=
  ExceptT.mk do return (← submission.run).mapError .transaction

def ofTransition {α : Type} (result : Except DisputeError α) : ServiceDialogue α :=
  ExceptT.mk (pure (result.mapError .transition))

end ServiceDialogue

open ServiceDialogue

def Event.handle (key : PrivateKey) (tokenNetwork : Address) (channel : Channel) (event : Event) :
    Submission Hash := do
  (← Submission.ofExcept (event.contractCall channel)).execute key tokenNetwork

/-- Takes a step at the block that the node reports, and sends the calls that follow from it.
Returns the channel after the step and the transactions. -/
def Channel.submit (channel : Channel) (key : PrivateKey) (change : StateChange) :
    ServiceDialogue (Channel × List Hash) := do
  let block ← ofSubmission (Submission.call .blockNumber)
  let next ← ofTransition (channel.transition change block)
  let hashes ← next.events.mapM fun event =>
    ofSubmission (event.handle key channel.identifier.tokenNetwork next.channel)
  return (next.channel, hashes)

structure DisputeService where
  key : PrivateKey
  config : DisputeConfig
  channels : List (Hash × Channel)

namespace DisputeService

def ofConfig (key : PrivateKey) (config : DisputeConfig) : DisputeService := ⟨key, config, []⟩

def address (service : DisputeService) : Address := service.key.address

/-- The identifiers of the channels in ascending order. -/
def identifiers (service : DisputeService) : List Hash :=
  (service.channels.map (·.1)).mergeSort fun a b => decide (a ≤ b)

def channel (service : DisputeService) (identifier : Hash) : Except ServiceError Channel :=
  match service.channels.lookup identifier with
  | some channel => .ok channel
  | none => .error (.channelNotFound identifier)

/-- Registers a channel. The first channel registered under an identifier stays; the result says
whether there was one already. -/
def register (service : DisputeService) (channel : Channel) : Bool × DisputeService :=
  match service.channels.lookup channel.identifier.channel with
  | some _ => (true, service)
  | none =>
    (false, { service with
      channels := service.channels ++ [(channel.identifier.channel, channel)] })

/-- Registers a channel opened between our account and the partner, with the timeouts of the
settings. -/
def registerOpened (service : DisputeService) (identifier : CanonicalIdentifier)
    (openBlock : BlockNumber) (ourDeposit : Amount) (partner : Address) (partnerDeposit : Amount) :
    Except ServiceError (Bool × DisputeService) :=
  let opened := Channel.create identifier openBlock (.fresh service.address ourDeposit)
    (.fresh partner partnerDeposit) service.config.settleTimeout service.config.punishWindow
  (opened.mapError .transition).map service.register

def commit (service : DisputeService) (identifier : Hash) (channel : Channel) : DisputeService :=
  { service with
    channels := service.channels.map fun entry =>
      if entry.1 = identifier then (identifier, channel) else entry }

def applySeen (service : DisputeService) (identifier : Hash) (change : StateChange)
    (block : BlockNumber) : Except ServiceError (ChannelStatus × DisputeService) := do
  let channel ← service.channel identifier
  let next ← (channel.transition change block).mapError .transition
  return (next.channel.status, service.commit identifier next.channel)

/-- Concludes a step of our own. It is `none` if the step was not confirmed in time. -/
def conclude (service : DisputeService) (identifier : Hash) (change : StateChange) :
    Option (Except ServiceError (Channel × List Hash)) →
      Except ServiceError (List Hash) × DisputeService
  | some (.ok (channel, hashes)) => (.ok hashes, service.commit identifier channel)
  | some (.error e) => (.error e, service)
  | none => (.error (.unconfirmed change.typeName service.config.transactionTimeout), service)

end DisputeService

end PaymentChannel
