import PaymentChannel.Channel.Basic

/-!
# Views of a channel

* `Channel.ends` : a participant's end of the channel and the other one.
* `Channel.updateEnd` : changes the end of a participant.
* `Channel.forfeited` : what one participant has forfeited to another.
* `Channel.balance` : what an end receives when the channel is settled.
-/

namespace PaymentChannel.Channel

/-- The end of the given participant, then the end of its counterparty. -/
def ends (channel : Channel) (participant : Address) :
    Except DisputeError (Participant × Participant) :=
  if participant = channel.ours.address then .ok (channel.ours, channel.partner)
  else if participant = channel.partner.address then .ok (channel.partner, channel.ours)
  else .error (.validation (.notParticipant participant channel.identifier.channel))

def counterparty (channel : Channel) (participant : Address) : Except DisputeError Address :=
  (channel.ends participant).map (·.2.address)

def end? (channel : Channel) (address : Address) : Option Participant :=
  if address = channel.ours.address then some channel.ours
  else if address = channel.partner.address then some channel.partner
  else none

def updateEnd (channel : Channel) (address : Address) (f : Participant → Participant) : Channel :=
  if address = channel.ours.address then { channel with ours := f channel.ours }
  else if address = channel.partner.address then { channel with partner := f channel.partner }
  else channel

def forfeited (channel : Channel) (cheater beneficiary : Address) : Amount :=
  (channel.punishments.filter fun p => p.cheater = cheater ∧ p.beneficiary = beneficiary).foldl
    (fun total p => total.saturatingAdd p.amount) 0

/-- What an end receives when the channel is settled: its deposit, what it received and what was
forfeited to it, less what it sent and what it forfeited, between zero and the capacity. -/
def balance (channel : Channel) (own other : Participant) : Amount :=
  let gained := (own.deposit.saturatingAdd other.transferredAmount).saturatingAdd
    (channel.forfeited other.address own.address)
  let lost := own.transferredAmount.saturatingAdd (channel.forfeited own.address other.address)
  (gained.saturatingSub lost).least channel.capacity

/-- The settlement of the channel as it stands. The partner receives what is left of the
capacity. -/
def settlementNow (channel : Channel) : Settlement :=
  let ourBalance := channel.balance channel.ours channel.partner
  { ourTransferredAmount := channel.ours.transferredAmount
    ourLocksroot := channel.ours.locksroot
    ourBalance
    partnerTransferredAmount := channel.partner.transferredAmount
    partnerLocksroot := channel.partner.locksroot
    partnerBalance := channel.capacity.saturatingSub ourBalance }

end PaymentChannel.Channel
