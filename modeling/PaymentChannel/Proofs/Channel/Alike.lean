import PaymentChannel.Proofs.Channel.Frame
import PaymentChannel.Proofs.Channel.Settlement

/-!
# Channels that differ in the order of their records

The records of a channel are a list, and the last update leaves its block in the channel.  Neither
the order of the list nor that block is read by any rule: the rules look for a lock among the
records, the settlement adds their amounts up, and the status asks only whether there was an update.

The amounts are added with a sum that stops at the largest one.  Where it stops depends on the order
in which it is added up, but not where it ends: the end is the sum without a bound, cut off.

* `Channel.Alike` : the two channels agree in all but the order of the records and the last update.
* `Channel.Alike.settlementNow_eq` : then they would be settled in the same way.
* `Channel.Alike.transition` : a step that one of them admits is admitted by the other one, with the
  same calls, and leaves them alike.
* `Channel.Alike.run` : so does every run.
* `Channel.SettlesTo` : a settlement by a sender at a block is admitted and records an outcome.
* `Channel.Alike.settlesTo_iff` : channels that are alike are settled alike.
-/

namespace PaymentChannel

namespace Channel

variable {c d : Channel} {block : BlockNumber} {change : StateChange} {t : Transition}

/-- The channels agree in all but the order of the records and the last update. -/
structure Alike (c d : Channel) : Prop where
  punishments : c.punishments.Perm d.punishments
  updated : c.updateTransaction.isSome = d.updateTransaction.isSome
  rest : d = { c with
    punishments := d.punishments
    updateTransaction := d.updateTransaction }

namespace Alike

theorem symm (h : c.Alike d) : d.Alike c := by
  refine ⟨h.punishments.symm, h.updated.symm, ?_⟩
  rw [h.rest]

/-! ## What the rules read -/

theorem party_eq (h : c.Alike d) (r : Role) : d.party r = c.party r := by
  rw [h.rest]
  rfl

theorem sameTerms (h : c.Alike d) : SameTerms c d := by
  have ends := h.party_eq
  rw [h.rest] at ends ⊢
  exact ⟨rfl, rfl, rfl, rfl, fun r => congrArg Participant.address (ends r),
    fun r => congrArg Participant.deposit (ends r)⟩

theorem distinct (h : c.Alike d) (hc : c.Distinct) : d.Distinct :=
  distinct_of_addresses hc h.sameTerms.address

theorem settleTimeoutEnd_eq (h : c.Alike d) : d.settleTimeoutEnd = c.settleTimeoutEnd := by
  rw [h.rest]
  rfl

theorem status_eq (h : c.Alike d) : d.status = c.status := by
  have empty : d.punishments.isEmpty = c.punishments.isEmpty := h.punishments.isEmpty_eq.symm
  have settled : d.settleTransaction = c.settleTransaction := by rw [h.rest]
  have closed : d.closeTransaction = c.closeTransaction := by rw [h.rest]
  rw [status, status, empty, ← h.updated, settled, closed]

theorem isLockPunished_eq (h : c.Alike d) (cheater : Address) (lockHash : Hash) :
    d.isLockPunished cheater lockHash = c.isLockPunished cheater lockHash :=
  h.punishments.symm.any_eq

theorem sameDispute (h : c.Alike d) (disputed : c.status.isUnderDispute = true) :
    c.SameDispute d := by
  refine ⟨h.sameTerms, h.settleTimeoutEnd_eq, disputed, ?_⟩
  rw [h.status_eq]
  exact disputed

/-! ## The settlement -/

theorem forfeitedTotal_eq (h : c.Alike d) (cheater beneficiary : Address) :
    d.forfeitedTotal cheater beneficiary = c.forfeitedTotal cheater beneficiary :=
  ((h.punishments.symm.filter _).map _).sum_nat

theorem forfeited_eq (h : c.Alike d) (cheater beneficiary : Address) :
    d.forfeited cheater beneficiary = c.forfeited cheater beneficiary := by
  apply BitVec.eq_of_toNat_eq
  rw [toNat_forfeited, toNat_forfeited, h.forfeitedTotal_eq]

theorem settlementNow_eq (h : c.Alike d) : d.settlementNow = c.settlementNow := by
  have ours : d.ours = c.ours := h.party_eq .ours
  have partner : d.partner = c.partner := h.party_eq .partner
  have balance : d.balance c.ours c.partner = c.balance c.ours c.partner := by
    simp only [Channel.balance, h.forfeited_eq, capacity, ours, partner]
  simp only [settlementNow, capacity, ours, partner, balance]

/-! ## Steps and runs -/

theorem step (h : c.Alike d) (hc : c.Distinct) (hs : c.Step block change t) :
    ∃ u, d.Step block change u ∧ u.events = t.events ∧ t.channel.Alike u.channel := by
  have terms := h.sameTerms
  cases hs with
  | close signer proof opened authentic =>
    rw [← h.status_eq] at opened
    have hu : d.Step block (.close (d.party signer.other).address proof) ⟨_, _⟩ :=
      .close signer proof opened fun p hp => terms.authentic (authentic p hp)
    rw [h.party_eq, h.party_eq, terms.identifier] at hu
    refine ⟨_, hu, rfl, ?_⟩
    rw [h.rest]
    cases signer <;> exact ⟨h.punishments, h.updated, rfl⟩
  | update signer proof disputed inTime authentic newer =>
    have hu := (h.sameDispute disputed).update (h.party_eq signer) inTime authentic newer
    refine ⟨_, hu, rfl, ?_⟩
    rw [h.rest]
    cases signer <;> exact ⟨h.punishments, rfl, rfl⟩
  | punish sender beneficiary request lock updated proof signature disputed evidence signed =>
    have untaken := evidence.unpunished
    rw [← h.isLockPunished_eq] at untaken
    have hu := (h.sameDispute disputed).punish hc (h.party_eq beneficiary) (s := sender) evidence
      signed untaken
    refine ⟨_, hu, rfl, h.punishments.append_right _, h.updated, ?_⟩
    rw [h.rest]
    rfl
  | settle sender disputed elapsed =>
    have disputed' := (h.sameDispute disputed).disputed'
    rw [← h.settleTimeoutEnd_eq] at elapsed
    have ours : d.ours = c.ours := h.party_eq .ours
    have partner : d.partner = c.partner := h.party_eq .partner
    have hu := Step.settle sender disputed' elapsed
    rw [h.party_eq, terms.identifier, ours, partner, h.settlementNow_eq] at hu
    refine ⟨_, hu, rfl, h.punishments, h.updated, ?_⟩
    rw [afterSettle, afterSettle, h.settlementNow_eq, h.rest]

/-- **Channels that are alike admit the same steps.** -/
theorem transition (h : c.Alike d) (hc : c.Distinct)
    (ht : c.transition change block = .ok t) :
    ∃ u, d.transition change block = .ok u ∧ u.events = t.events ∧ t.channel.Alike u.channel := by
  obtain ⟨u, hu, events, after⟩ := h.step hc (Step.of_transition hc ht)
  exact ⟨u, hu.transition_eq (h.distinct hc), events, after⟩

theorem attempt (h : c.Alike d) (hc : c.Distinct) (a : Attempt) :
    (c.attempt a).Alike (d.attempt a) := by
  cases ht : c.transition a.change a.block with
  | ok t =>
    obtain ⟨u, hu, -, after⟩ := h.transition hc ht
    rw [attempt_of_ok ht, attempt_of_ok hu]
    exact after
  | error e =>
    cases hu : d.transition a.change a.block with
    | ok u =>
      -- What the second channel admits, the first one admits.
      obtain ⟨t, ht', -, -⟩ := h.symm.transition (h.distinct hc) hu
      rw [ht] at ht'
      cases ht'
    | error e' =>
      rw [Channel.attempt, Channel.attempt, ht, hu]
      exact h

theorem run (h : c.Alike d) (hc : c.Lawful) (attempts : List Attempt) :
    (c.run attempts).Alike (d.run attempts) := by
  induction attempts generalizing c d with
  | nil => exact h
  | cons a rest ih =>
    exact ih (h.attempt hc.distinct a) (lawful_run hc [a]).1

end Alike

/-! ## Settling -/

/-- A settlement by the sender at the block is admitted and records the outcome. -/
def SettlesTo (c : Channel) (sender : Address) (block : BlockNumber) (s : Settlement) : Prop :=
  ∃ t, c.transition (.settle sender) block = .ok t ∧ t.channel.settlement = some s

theorem SettlesTo.of_alike {sender : Address} {s : Settlement} (hs : c.SettlesTo sender block s)
    (h : c.Alike d) (hc : c.Distinct) : d.SettlesTo sender block s := by
  obtain ⟨t, ht, recorded⟩ := hs
  obtain ⟨u, hu, -, after⟩ := h.transition hc ht
  refine ⟨u, hu, ?_⟩
  rw [after.rest]
  exact recorded

theorem Alike.settlesTo_iff (h : c.Alike d) (hc : c.Distinct) {sender : Address} {s : Settlement} :
    c.SettlesTo sender block s ↔ d.SettlesTo sender block s :=
  ⟨fun hs => hs.of_alike h hc, fun hs => hs.of_alike h.symm (h.distinct hc)⟩

end Channel

end PaymentChannel
