import PaymentChannel.Proofs.Channel.Frame
import PaymentChannel.Proofs.Channel.Settlement

/-!
# Submitted evidence never hurts the submitter

What an end receives grows with what the opposite end has sent and forfeited to it, and shrinks with
what it has sent and forfeited itself.  This holds wherever the sums and the difference stop, so
nothing is assumed about the amounts.

* `Channel.balanceOf` : what an end receives if the channel is settled as it stands.
* `Channel.Favors` : a channel is at least as good for an end as another one of the same terms.
* `Channel.Favors.balanceOf_le` : then the end receives at least as much there.
* `Channel.Favors.symm` : and the opposite end receives at most as much.
* `Channel.favors_afterClose`, `Channel.favors_afterUpdate`, `Channel.favors_afterPunish` : evidence
  favors the end that it speaks for.
* `Channel.advantage_of_run` : so it does after every run, and a settlement favors nobody.
-/

namespace PaymentChannel

/-! ## Sums and differences that stop are monotone -/

namespace Amount

variable {a b x y : Amount}

theorem saturatingAdd_mono (h : a ≤ b) (g : x ≤ y) : a.saturatingAdd x ≤ b.saturatingAdd y := by
  rw [BitVec.le_def] at h g ⊢
  rw [toNat_saturatingAdd, toNat_saturatingAdd]
  omega

theorem saturatingSub_mono (h : a ≤ b) (g : y ≤ x) : a.saturatingSub x ≤ b.saturatingSub y := by
  rw [BitVec.le_def] at h g ⊢
  rw [toNat_saturatingSub, toNat_saturatingSub]
  omega

theorem least_mono (h : a ≤ b) (g : x ≤ y) : a.least x ≤ b.least y := by
  rw [BitVec.le_def] at h g ⊢
  rw [toNat_least, toNat_least]
  omega

end Amount

namespace Channel

variable {c d : Channel} {r : Role} {block : BlockNumber} {change : StateChange} {t : Transition}

/-- What the end in a role receives if the channel is settled as it stands. -/
def balanceOf (c : Channel) (r : Role) : Amount := c.balance (c.party r) (c.party r.other)

/-! ## What makes a channel better for an end -/

/-- For the end in a role, `d` is at least as good as `c`. -/
structure Favors (c d : Channel) (r : Role) : Prop where
  terms : SameTerms c d
  received : (c.party r.other).transferredAmount ≤ (d.party r.other).transferredAmount
  sent : (d.party r).transferredAmount ≤ (c.party r).transferredAmount
  won : c.forfeitedTotal (c.party r.other).address (c.party r).address ≤
    d.forfeitedTotal (c.party r.other).address (c.party r).address
  lost : d.forfeitedTotal (c.party r).address (c.party r.other).address ≤
    c.forfeitedTotal (c.party r).address (c.party r.other).address

theorem forfeited_mono {cheater beneficiary : Address}
    (h : c.forfeitedTotal cheater beneficiary ≤ d.forfeitedTotal cheater beneficiary) :
    c.forfeited cheater beneficiary ≤ d.forfeited cheater beneficiary := by
  rw [BitVec.le_def, toNat_forfeited, toNat_forfeited]
  omega

theorem SameTerms.capacity (h : SameTerms c d) : d.capacity = c.capacity := by
  have ours : d.ours.deposit = c.ours.deposit := h.deposit .ours
  have partner : d.partner.deposit = c.partner.deposit := h.deposit .partner
  rw [Channel.capacity, ours, partner]
  rfl

/-- What is better for an end is worse for the opposite one. -/
theorem Favors.symm (h : Favors c d r) : Favors d c r.other := by
  have own := h.terms.address r
  have other := h.terms.address r.other
  refine ⟨h.terms.symm, ?_, h.received, ?_, ?_⟩
  · rw [Role.other_other]
    exact h.sent
  · rw [Role.other_other, own, other]
    exact h.lost
  · rw [Role.other_other, own, other]
    exact h.won

theorem Favors.balanceOf_le (h : Favors c d r) : c.balanceOf r ≤ d.balanceOf r := by
  have won := forfeited_mono h.won
  have lost := forfeited_mono h.lost
  simp only [balanceOf, balance, h.terms.address, h.terms.deposit, h.terms.capacity]
  refine Amount.least_mono (Amount.saturatingSub_mono ?_ ?_) (BitVec.le_refl _)
  · exact Amount.saturatingAdd_mono
      (Amount.saturatingAdd_mono (BitVec.le_refl _) h.received) won
  · exact Amount.saturatingAdd_mono h.sent lost

/-- The balance of the end grows and the one of the opposite end shrinks. -/
theorem Favors.balances (h : Favors c d r) :
    c.balanceOf r ≤ d.balanceOf r ∧ d.balanceOf r.other ≤ c.balanceOf r.other :=
  ⟨h.balanceOf_le, h.symm.balanceOf_le⟩

/-! ## What evidence is good for -/

theorem transferredAmount_le_of_none {p : Participant} (h : p.balanceProof = none) (a : Amount) :
    p.transferredAmount ≤ a := by
  rw [BitVec.le_def, Participant.transferredAmount, h]
  exact Nat.zero_le _

/-- A proof of the opposite end that takes nothing back is good for an end. -/
theorem favors_of_recorded (terms : SameTerms c d) (own : d.party r = c.party r)
    (punishments : d.punishments = c.punishments)
    (received : (c.party r.other).transferredAmount ≤ (d.party r.other).transferredAmount) :
    Favors c d r := by
  have forfeited : ∀ x y, d.forfeitedTotal x y = c.forfeitedTotal x y := by
    intro x y
    rw [forfeitedTotal, punishments]
    rfl
  refine ⟨terms, received, ?_, ?_, ?_⟩
  · rw [own]
    exact BitVec.le_refl _
  · rw [forfeited]
  · rw [forfeited]

theorem forfeitedTotal_afterPunish (c : Channel) (p : Punishment) (cheater beneficiary : Address) :
    (c.afterPunish p).forfeitedTotal cheater beneficiary = c.forfeitedTotal cheater beneficiary +
      if p.cheater = cheater ∧ p.beneficiary = beneficiary then p.amount.toNat else 0 := by
  simp only [forfeitedTotal, afterPunish, List.filter_append, List.map_append, List.sum_append,
    List.filter_cons, List.filter_nil, decide_eq_true_eq]
  split <;> rfl

/-- A lock that the opposite end forfeits is good for an end. -/
theorem favors_of_forfeited (h : c.Distinct) {p : Punishment}
    (terms : SameTerms c (c.afterPunish p)) (cheater : p.cheater = (c.party r.other).address) :
    Favors c (c.afterPunish p) r := by
  have kept : ¬(p.cheater = (c.party r).address ∧
      p.beneficiary = (c.party r.other).address) := by
    rintro ⟨own, -⟩
    exact h.ne r (own.symm.trans cheater)
  refine ⟨terms, ?_, ?_, ?_, ?_⟩
  · rw [party_afterPunish]
    exact BitVec.le_refl _
  · rw [party_afterPunish]
    exact BitVec.le_refl _
  · rw [forfeitedTotal_afterPunish]
    exact Nat.le_add_right ..
  · rw [forfeitedTotal_afterPunish, if_neg kept]
    exact Nat.le_refl _

/-- The end that a step speaks for: the sender of a proof of the opposite end, or the beneficiary of
a punishment. -/
def Speaks (c : Channel) (change : StateChange) (r : Role) : Prop :=
  match change with
  | .close sender _ => sender = (c.party r).address
  | .update sender _ => sender = (c.party r).address
  | .punish _ request _ => request.beneficiary = (c.party r).address
  | .settle _ => False

theorem SameTerms.speaks (h : SameTerms c d) (own : c.Speaks change r) : d.Speaks change r := by
  cases change with
  | close | update | punish => exact own.trans (h.address r).symm
  | settle => exact own

theorem Step.favors (h : c.Lawful) (hs : c.Step block change t) (own : c.Speaks change r) :
    Favors c t.channel r := by
  have terms := hs.sameTerms
  cases hs with
  | close signer proof opened =>
    obtain rfl : signer.other = r := h.distinct.role_eq own
    refine favors_of_recorded terms (party_afterClose_other ..) (punishments_setParty ..) ?_
    -- Before the close the signer had sent nothing.
    rw [Role.other_other]
    exact transferredAmount_le_of_none (h.party_of_opened opened signer).1 _
  | update signer proof _ _ _ newer =>
    obtain rfl : signer.other = r := h.distinct.role_eq own
    refine favors_of_recorded terms (party_afterUpdate_other ..) (punishments_setParty ..) ?_
    rw [Role.other_other, party_afterUpdate]
    cases recorded : (c.party signer).balanceProof with
    | none => exact transferredAmount_le_of_none recorded _
    | some p =>
      simp only [Participant.transferredAmount, recorded]
      exact (newer p recorded).2
  | punish _ beneficiary _ _ _ _ _ _ evidence =>
    have named := evidence.beneficiary_eq h.distinct
    obtain rfl : beneficiary = r := h.distinct.role_eq (named.symm.trans own)
    exact favors_of_forfeited h.distinct terms rfl
  | settle => exact absurd own id

theorem balanceOf_afterSettle (c : Channel) (r : Role) (block : BlockNumber) :
    (c.afterSettle block).balanceOf r = c.balanceOf r := by
  rw [balanceOf, party_afterSettle, party_afterSettle]
  rfl

/-! ## Runs -/

/-- A step changes the balances for the better of the end it speaks for, and a settlement not at
all. -/
theorem Step.balances (h : c.Lawful) (hs : c.Step block change t)
    (own : c.Speaks change r ∨ ∃ sender, change = .settle sender) :
    c.balanceOf r ≤ t.channel.balanceOf r ∧ t.channel.balanceOf r.other ≤ c.balanceOf r.other := by
  rcases own with own | ⟨sender, rfl⟩
  · exact (hs.favors h own).balances
  · cases hs with
    | settle =>
      rw [balanceOf_afterSettle, balanceOf_afterSettle]
      exact ⟨BitVec.le_refl _, BitVec.le_refl _⟩

/-- An end for which all evidence of a run speaks is left with at least as much as before, and the
opposite end with at most as much. -/
theorem balances_run (h : c.Lawful) {attempts : List Attempt}
    (own : ∀ a ∈ attempts, c.Speaks a.change r ∨ ∃ sender, a.change = .settle sender) :
    c.balanceOf r ≤ (c.run attempts).balanceOf r ∧
      (c.run attempts).balanceOf r.other ≤ c.balanceOf r.other := by
  induction attempts generalizing c with
  | nil => exact ⟨BitVec.le_refl _, BitVec.le_refl _⟩
  | cons a rest ih =>
    rw [run_cons]
    cases ht : c.transition a.change a.block with
    | ok t =>
      have hs := Step.of_transition h.distinct ht
      have step := hs.balances h (own a List.mem_cons_self)
      have later := ih (h.step hs) fun b hb =>
        (own b (List.mem_cons_of_mem _ hb)).imp_left hs.sameTerms.speaks
      rw [attempt_of_ok ht]
      exact ⟨BitVec.le_trans step.1 later.1, BitVec.le_trans later.2 step.2⟩
    | error e =>
      rw [attempt, ht]
      exact ih h fun b hb => own b (List.mem_cons_of_mem _ hb)

/-- **Submitting evidence never hurts the submitter.**  In every reached channel, an admitted close
or update leaves its sender with at least the balance it had and the counterparty with at most that,
an admitted punishment does the same for its beneficiary and the cheater, and a settlement changes
no balance. -/
theorem advantage_of_run (h : c.Fresh) (past : List Attempt)
    (ht : (c.run past).transition change block = .ok t) :
    match change with
    | .close sender _ => ∃ r, sender = (c.party r).address ∧
        (c.run past).balanceOf r ≤ t.channel.balanceOf r ∧
        t.channel.balanceOf r.other ≤ (c.run past).balanceOf r.other
    | .update sender _ => ∃ r, sender = (c.party r).address ∧
        (c.run past).balanceOf r ≤ t.channel.balanceOf r ∧
        t.channel.balanceOf r.other ≤ (c.run past).balanceOf r.other
    | .punish .. => ∃ r p, t.channel.punishments = (c.run past).punishments ++ [p] ∧
        p.beneficiary = (c.party r).address ∧ p.cheater = (c.party r.other).address ∧
        (c.run past).balanceOf r ≤ t.channel.balanceOf r ∧
        t.channel.balanceOf r.other ≤ (c.run past).balanceOf r.other
    | .settle _ => ∀ r, t.channel.balanceOf r = (c.run past).balanceOf r := by
  have hl := lawful_of_run h past
  have terms := sameTerms_of_run h past
  have hs := Step.of_transition hl.distinct ht
  have favored : ∀ r, (c.run past).Speaks change r →
      (c.run past).balanceOf r ≤ t.channel.balanceOf r ∧
        t.channel.balanceOf r.other ≤ (c.run past).balanceOf r.other :=
    fun r own => (hs.favors hl own).balances
  cases hs with
  | close signer => exact ⟨signer.other, terms.address _, favored _ rfl⟩
  | update signer => exact ⟨signer.other, terms.address _, favored _ rfl⟩
  | punish _ beneficiary _ _ _ _ _ _ evidence =>
    have named := evidence.beneficiary_eq hl.distinct
    exact ⟨beneficiary, _, rfl, named.trans (terms.address _), terms.address _, favored _ named⟩
  | settle => exact fun r => balanceOf_afterSettle ..

/-- The punishment of the sample dispute does not hurt the second end. -/
theorem advantage_of_sample : Sample.channel.Fresh ∧ ∃ t,
    (Sample.channel.run [Sample.close, Sample.update]).transition Sample.punish.change
      Sample.punish.block = .ok t ∧
    ∃ r p, t.channel.punishments = Sample.updated.punishments ++ [p] ∧
      p.beneficiary = (Sample.channel.party r).address ∧
      p.cheater = (Sample.channel.party r.other).address ∧
      Sample.updated.balanceOf r ≤ t.channel.balanceOf r ∧
      t.channel.balanceOf r.other ≤ Sample.updated.balanceOf r.other := by
  obtain ⟨events, accepted⟩ := Sample.transition_punish Sample.hash_smallLock
  rw [← Sample.run_updated] at accepted ⊢
  exact ⟨Sample.fresh_channel, _, accepted,
    advantage_of_run Sample.fresh_channel [Sample.close, Sample.update] accepted⟩

end Channel

end PaymentChannel
