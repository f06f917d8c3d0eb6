import PaymentChannel.Contract.Call
import PaymentChannel.Proofs.Channel.Run

/-!
# Steps that can be sent

A step of our own is checked twice: by the rules of the channel, and once more as a contract call
before it is sent.  The second check reads the call and the chain, not the channel.

The rules ask less in two places.  Either end may punish a lock, but only the beneficiary may send
that call.  And a channel whose ends have the same address has a counterparty for each of its ends,
but no end may send a close against itself.

* `Channel.obstacle?` : what keeps an admitted step from being sent by its sender.
* `ContractCall.check_close`, `ContractCall.check_update`, `ContractCall.check_punish`,
  `ContractCall.check_settle` : the second check of each call, on what the rules have checked.
* `Channel.check_of_transition` : an admitted step is followed by one call, which is refused for
  its obstacle and for nothing else.
* `Channel.not_sendable_for_other`, `Channel.not_sendable_against_oneself` : both obstacles occur.
-/

namespace PaymentChannel

variable {c : Channel} {r : Role} {block now : BlockNumber}

/-! ## The checks of a call -/

@[simp] theorem checkIdentifier_self (identifier : CanonicalIdentifier) :
    checkIdentifier identifier.tokenNetwork identifier.chain identifier = .ok () := by
  simp [checkIdentifier]

theorem checkSigned_of_authentic {proof : BalanceProof} (h : c.Authentic r proof) :
    checkSigned c.identifier.tokenNetwork c.identifier.chain proof (c.party r).address = .ok () := by
  have signed := BalanceProof.verify_eq_ok_iff.mp h.verify
  rw [checkSigned, h.identifier, checkIdentifier_self, signed]
  simp [bind, Except.bind, pure, Except.pure]

namespace ContractCall

theorem check_close {proof : Option BalanceProof}
    (authentic : ∀ p, proof = some p → c.Authentic r p) {account : Address} :
    (close c.identifier (c.party r).address proof).check account c.identifier.tokenNetwork
      c.identifier.chain now =
    if (c.party r).address = account then .error (.brokenPrecondition .otherPartner)
    else .ok () := by
  by_cases own : (c.party r).address = account
  · rw [if_pos own]
    simp only [check, own, if_true, error_bind]
  · rw [if_neg own]
    simp only [check, own, if_false, checkIdentifier_self]
    cases proof with
    | none => rfl
    | some p =>
      have named := (authentic p rfl).identifier
      have signed := checkSigned_of_authentic (authentic p rfl)
      simp only [named, ne_eq, not_true_eq_false, if_false, signed]
      rfl

theorem check_update {proof : BalanceProof} (authentic : c.Authentic r proof) {account : Address} :
    (update (c.party r).address proof).check account c.identifier.tokenNetwork
      c.identifier.chain now = .ok () := by
  have signed := BalanceProof.verify_eq_ok_iff.mp authentic.verify
  obtain ⟨signature, present, -⟩ := signerOf_eq_ok_iff.mp signed
  rw [check, checkSigned_of_authentic authentic, present]
  rfl

theorem check_punish {beneficiary cheater : Participant} {request : PunishRequest} {lock : Lock}
    {updated : BlockNumber} {proof : BalanceProof} {signature : Bytes}
    (evidence : c.Punishable beneficiary cheater request lock block updated proof)
    (signed : request.signature = some signature) {account : Address} :
    (punish c.identifier request.openBlock request.beneficiary cheater.address request.lockHash
      request.additionalHash signature).check account c.identifier.tokenNetwork
      c.identifier.chain now =
    if request.beneficiary = account then .ok ()
    else .error (.brokenPrecondition (.beneficiary request.beneficiary)) := by
  by_cases own : request.beneficiary = account
  · -- The call carries the fields of the request, so the same bytes are checked once more.
    have message : packObsoleteUnlock request.lockHash c.identifier.channel request.openBlock
        c.identifier.chain request.additionalHash = request.pack := by
      rw [PunishRequest.pack, evidence.identifier]
    have recovered := evidence.signer
    rw [PunishRequest.signer, signed, signerOf_some_eq_ok_iff] at recovered
    rw [if_pos own]
    simp only [check, checkIdentifier_self, own, ne_eq, not_true_eq_false, if_false, message,
      recovered]
    rfl
  · rw [if_neg own]
    simp only [check, checkIdentifier_self, ne_eq, own, not_false_eq_true, if_true, error_bind]
    rfl

theorem check_settle {partner account : Address} {settlement : Settlement}
    {timeoutEnd : BlockNumber} (elapsed : timeoutEnd < now) :
    (settle c.identifier partner settlement (timeoutEnd.saturatingAdd 1)).check account
      c.identifier.tokenNetwork c.identifier.chain now = .ok () := by
  have reached : ¬now < timeoutEnd.saturatingAdd 1 := by
    have one : (1 : BlockCount).toNat = 1 := rfl
    rw [UInt64.lt_iff_toNat_lt] at elapsed ⊢
    rw [Quantity.toNat_saturatingAdd, one]
    omega
  simp only [check, checkIdentifier_self, reached, if_false]
  rfl

end ContractCall

namespace Channel

variable {change : StateChange} {t : Transition}

/-- What keeps an admitted step from being sent by its sender. -/
def obstacle? (c : Channel) : StateChange → Option Precondition
  | .close .. => if c.ours.address = c.partner.address then some .otherPartner else none
  | .punish sender request _ =>
    if request.beneficiary = sender then none else some (.beneficiary request.beneficiary)
  | .update .. | .settle _ => none

theorem party_eq_other_iff (c : Channel) {r : Role} :
    (c.party r).address = (c.party r.other).address ↔ c.ours.address = c.partner.address := by
  cases r
  · exact Iff.rfl
  · exact eq_comm

/-- **An admitted step can be sent, unless there is an obstacle.**  It is followed by one call, and
on the chain and in the token network of the channel, no earlier than at the block of the step, the
check of this call refuses the obstacle and nothing else. -/
theorem check_of_transition (ht : c.transition change block = .ok t) (later : block ≤ now) :
    ∃ event call, t.events = [event] ∧ event.contractCall t.channel = .ok call ∧
      call.check change.sender c.identifier.tokenNetwork c.identifier.chain now =
        match c.obstacle? change with
        | none => .ok ()
        | some obstacle => .error (.brokenPrecondition obstacle) := by
  simp only [transition, ite_error_eq_ok_iff] at ht
  obtain ⟨-, ht⟩ := ht
  cases change with
  | close sender proof =>
    obtain ⟨-, signer, rfl, authentic, rfl⟩ := close_inv ht
    refine ⟨_, _, rfl, rfl, ?_⟩
    rw [StateChange.sender, ContractCall.check_close authentic, obstacle?]
    by_cases same : c.ours.address = c.partner.address
    · rw [if_pos same, if_pos (c.party_eq_other_iff.mpr same)]
    · rw [if_neg same, if_neg (mt c.party_eq_other_iff.mp same)]
  | update sender proof =>
    obtain ⟨-, signer, rfl, authentic, -, rfl⟩ := update_inv ht
    exact ⟨_, _, rfl, rfl, ContractCall.check_update authentic⟩
  | punish sender request lock =>
    obtain ⟨-, -, beneficiary, cheater, updated, proof, signature, evidence, signed, rfl⟩ :=
      punish_eq_ok_iff.mp ht
    refine ⟨_, _, rfl, rfl, ?_⟩
    rw [StateChange.sender, ContractCall.check_punish evidence signed, obstacle?]
    by_cases own : request.beneficiary = sender
    · rw [if_pos own, if_pos own]
    · rw [if_neg own, if_neg own]
  | settle sender =>
    obtain ⟨-, -, ⟨timeoutEnd, found, elapsed⟩, rfl⟩ := settle_eq_ok_iff.mp ht
    have found' : (c.afterSettle block).settleTimeoutEnd = some timeoutEnd := found
    refine ⟨_, _, rfl, by rw [Event.contractCall, found'], ?_⟩
    exact ContractCall.check_settle (UInt64.lt_of_lt_of_le elapsed later)

/-- The beneficiary of the sample dispute punishes the lock, one block later. -/
theorem check_of_transition_sample : ∃ t event call,
    Sample.updated.transition Sample.punish.change 16 = .ok t ∧ t.events = [event] ∧
    event.contractCall t.channel = .ok call ∧
    call.check Sample.second ⟨7⟩ .mainnet 17 = .ok () := by
  obtain ⟨events, accepted⟩ := Sample.transition_punish Sample.hash_smallLock
  have later : (16 : BlockNumber) ≤ 17 := by decide
  obtain ⟨event, call, sent, made, checked⟩ := check_of_transition accepted later
  exact ⟨_, event, call, accepted, sent, made, checked⟩

/-! ## The two obstacles -/

/-- Where the step is admitted, it is followed by one call, which passes its check on the chain and
in the token network of the channel. -/
def Sendable (c : Channel) (change : StateChange) (block now : BlockNumber) : Prop :=
  ∀ t, c.transition change block = .ok t → ∃ event call, t.events = [event] ∧
    event.contractCall t.channel = .ok call ∧
    call.check change.sender c.identifier.tokenNetwork c.identifier.chain now = .ok ()

/-- In the sample dispute the first end punishes the lock for the second one. -/
theorem not_sendable_for_other :
    ¬Sample.updated.Sendable (.punish Sample.first Sample.request Sample.smallLock) 16 16 := by
  intro sendable
  have hs : Sample.updated.Step 16 (.punish Sample.first Sample.request Sample.smallLock) ⟨_, _⟩ :=
    .punish .ours .partner Sample.request Sample.smallLock 15 Sample.proof _ (by decide)
      Sample.punishable rfl
  obtain ⟨event, call, sent, made, checked⟩ := sendable _ (hs.transition_eq (by decide))
  cases sent
  cases made
  have refused := (ContractCall.check_punish Sample.punishable rfl).symm.trans checked
  rw [if_neg (by decide)] at refused
  cases refused

end Channel

/-- The first end alone. -/
def Sample.alone : Channel := { channel with partner := .fresh first 20 }

namespace Channel

theorem not_sendable_against_oneself :
    ¬Sample.alone.Sendable (.close Sample.first none) 10 10 := by
  intro sendable
  obtain ⟨event, call, sent, made, checked⟩ := sendable _ rfl
  cases sent
  cases made
  cases checked

/-- Not every admitted step can be sent: between different ends a punishment may be refused, and
between ends of the same address a close is. -/
theorem not_always_sendable :
    (¬∀ (c : Channel) (change : StateChange) (block now : BlockNumber), c.Distinct → block ≤ now →
      c.Sendable change block now) ∧
    ¬∀ (c : Channel) (sender : Address) (proof : Option BalanceProof) (block now : BlockNumber),
      block ≤ now → c.Sendable (.close sender proof) block now := by
  constructor
  · intro claim
    exact not_sendable_for_other (claim _ _ 16 16 (by decide) (by decide))
  · intro claim
    exact not_sendable_against_oneself (claim _ _ _ 10 10 (by decide))

end Channel

end PaymentChannel
