import Mathlib.Algebra.Ring.Nat
import PaymentChannel.Proofs.Channel.Run

/-!
# What a settlement pays out

The balances are computed with sums that stop at the largest amount and a difference that stops at
zero.  As long as the sums fit, this is the signed sum cut off at zero and at both deposits.

* `Channel.forfeitedTotal`, `Channel.gained`, `Channel.lost` : the sums as numbers without a bound.
* `Channel.Fits` : the sums fit 256 bits.
* `Channel.toNat_balance` : the balance of an end is what it gained less what it lost, cut off.
* `Channel.gained_add_gained` : apart from the deposits, what one end loses the other one gains.
* `Channel.balance_settlementNow` : so what one balance leaves of the capacity is the balance of the
  other end.
* `Channel.settles_by_formula` : what a settlement records for each end.
-/

namespace PaymentChannel

/-! ## Amounts that stop at the ends of the range -/

namespace Amount

variable (a b : Amount)

theorem toNat_largest : largest.toNat = 2 ^ 256 - 1 := by decide

theorem toNat_saturatingAdd : (a.saturatingAdd b).toNat = min (a.toNat + b.toNat) largest.toNat :=
  toNat_saturate _

theorem toNat_saturatingSub : (a.saturatingSub b).toNat = a.toNat - b.toNat := by
  have := a.isLt
  rw [saturatingSub, toNat_saturate, toNat_largest]
  omega

theorem toNat_least : (a.least b).toNat = min a.toNat b.toNat := by
  rw [least]
  split
  · next h =>
    rw [BitVec.le_def] at h
    omega
  · next h =>
    rw [BitVec.le_def] at h
    omega

theorem saturatingAdd_comm : a.saturatingAdd b = b.saturatingAdd a := by
  rw [saturatingAdd, saturatingAdd, Nat.add_comm]

end Amount

/-! ## The settlement by role -/

namespace Settlement

variable (s : Settlement)

/-- What the end in a role receives. -/
def balance : Role → Amount
  | .ours => s.ourBalance
  | .partner => s.partnerBalance

/-- What the end in a role had transferred. -/
def transferredAmount : Role → Amount
  | .ours => s.ourTransferredAmount
  | .partner => s.partnerTransferredAmount

/-- The pending locks of the end in a role. -/
def locksroot : Role → Hash
  | .ours => s.ourLocksroot
  | .partner => s.partnerLocksroot

end Settlement

namespace Channel

variable {c : Channel} {r : Role} {block : BlockNumber} {sender : Address} {t : Transition}

/-! ## The sums without a bound -/

/-- The sum of the locks that the cheater has forfeited to the beneficiary. -/
def forfeitedTotal (c : Channel) (cheater beneficiary : Address) : Nat :=
  ((c.punishments.filter fun p => p.cheater = cheater ∧ p.beneficiary = beneficiary).map
    fun p => p.amount.toNat).sum

/-- Both deposits. -/
def deposits (c : Channel) : Nat := c.ours.deposit.toNat + c.partner.deposit.toNat

/-- What an end put in, received and was forfeited to it. -/
def gained (c : Channel) (r : Role) : Nat :=
  (c.party r).deposit.toNat + (c.party r.other).transferredAmount.toNat +
    c.forfeitedTotal (c.party r.other).address (c.party r).address

/-- What an end sent and forfeited. -/
def lost (c : Channel) (r : Role) : Nat :=
  (c.party r).transferredAmount.toNat +
    c.forfeitedTotal (c.party r).address (c.party r.other).address

/-- What is due to an end before it is cut off: its deposit, what it received and what was forfeited
to it, less what it sent and what it forfeited. -/
def due (c : Channel) (r : Role) : Int :=
  (c.party r).deposit.toNat + (c.party r.other).transferredAmount.toNat +
    c.forfeitedTotal (c.party r.other).address (c.party r).address -
    (c.party r).transferredAmount.toNat -
    c.forfeitedTotal (c.party r).address (c.party r.other).address

theorem due_eq (c : Channel) (r : Role) : c.due r = c.gained r - c.lost r := by
  rw [due, gained, lost]
  omega

/-- The sums behind a settlement fit 256 bits. -/
structure Fits (c : Channel) : Prop where
  deposits : c.deposits < 2 ^ 256
  gained : ∀ r, c.gained r < 2 ^ 256
  lost : ∀ r, c.lost r < 2 ^ 256

theorem fits_iff : c.Fits ↔ c.deposits < 2 ^ 256 ∧
    (c.gained .ours < 2 ^ 256 ∧ c.gained .partner < 2 ^ 256) ∧
    (c.lost .ours < 2 ^ 256 ∧ c.lost .partner < 2 ^ 256) := by
  rw [← Role.forall_iff (P := fun r => c.gained r < 2 ^ 256),
    ← Role.forall_iff (P := fun r => c.lost r < 2 ^ 256)]
  exact ⟨fun h => ⟨h.deposits, h.gained, h.lost⟩, fun ⟨hd, hg, hl⟩ => ⟨hd, hg, hl⟩⟩

instance (c : Channel) : Decidable c.Fits := decidable_of_iff _ fits_iff.symm

theorem gained_add_gained (c : Channel) (r : Role) :
    c.gained r + c.gained r.other = c.deposits + c.lost r + c.lost r.other := by
  have both : (c.party r).deposit.toNat + (c.party r.other).deposit.toNat = c.deposits := by
    -- The deposits are added in the order of the roles, whichever end is asked for.
    cases r
    · rfl
    · exact Nat.add_comm ..
  rw [gained, gained, lost, lost, Role.other_other]
  omega

/-! ## The amounts are the sums -/

theorem toNat_foldl_saturatingAdd (ps : List Punishment) (total : Amount) :
    (ps.foldl (fun total p => total.saturatingAdd p.amount) total).toNat =
      min (total.toNat + (ps.map fun p => p.amount.toNat).sum) Amount.largest.toNat := by
  induction ps generalizing total with
  | nil =>
    have := total.isLt
    have := Amount.toNat_largest
    simp only [List.foldl_nil, List.map_nil, List.sum_nil]
    omega
  | cons p ps ih =>
    -- Once the total has stopped at the largest amount, it stays there.
    rw [List.foldl_cons, ih, Amount.toNat_saturatingAdd, List.map_cons, List.sum_cons]
    omega

theorem toNat_forfeited (c : Channel) (cheater beneficiary : Address) :
    (c.forfeited cheater beneficiary).toNat =
      min (c.forfeitedTotal cheater beneficiary) Amount.largest.toNat := by
  have zero : (0 : Amount).toNat = 0 := rfl
  rw [forfeited, toNat_foldl_saturatingAdd, zero, Nat.zero_add]
  rfl

theorem toNat_capacity (h : c.Fits) : c.capacity.toNat = c.deposits := by
  have fits : c.ours.deposit.toNat + c.partner.deposit.toNat < 2 ^ 256 := h.deposits
  have both : c.deposits = c.ours.deposit.toNat + c.partner.deposit.toNat := rfl
  rw [capacity, Amount.toNat_saturatingAdd, Amount.toNat_largest, both]
  omega

/-- **The balance of an end** is what it gained less what it lost, cut off at zero and at both
deposits. -/
theorem toNat_balance (h : c.Fits) (r : Role) :
    (c.balance (c.party r) (c.party r.other)).toNat =
      min (c.gained r - c.lost r) c.deposits := by
  have hgained := h.gained r
  have hlost := h.lost r
  simp only [balance, Amount.toNat_least, Amount.toNat_saturatingSub, Amount.toNat_saturatingAdd,
    toNat_forfeited, toNat_capacity h, Amount.toNat_largest]
  -- No part of a sum that fits stops early, so only the difference and the capacity cut off.
  rw [gained] at hgained ⊢
  rw [lost] at hlost ⊢
  omega

theorem balance_settlementNow (h : c.Fits) (r : Role) :
    c.settlementNow.balance r = c.balance (c.party r) (c.party r.other) := by
  cases r with
  | ours => rfl
  | partner =>
    have ours : (c.balance c.ours c.partner).toNat =
        min (c.gained .ours - c.lost .ours) c.deposits := toNat_balance h .ours
    have conserved : c.gained .ours + c.gained .partner =
        c.deposits + c.lost .ours + c.lost .partner := gained_add_gained c .ours
    have rest : c.settlementNow.balance .partner =
        c.capacity.saturatingSub (c.balance c.ours c.partner) := rfl
    apply BitVec.eq_of_toNat_eq
    rw [rest, Amount.toNat_saturatingSub, toNat_capacity h, ours, toNat_balance h]
    -- Where one balance is cut off at zero, the other one is cut off at both deposits.
    omega

/-- **A settlement follows the formula.**  As long as the sums fit, it records for each end what is
due to it, cut off at zero and at both deposits, and the transferred amount and the pending locks of
its recorded proof. -/
theorem settles_by_formula (h : c.Fits) (ht : c.transition (.settle sender) block = .ok t) :
    ∃ s, t.channel.settlement = some s ∧ ∀ r,
      ((s.balance r).toNat : Int) = max 0 (min (c.due r) c.deposits) ∧
      s.balance r = c.balance (c.party r) (c.party r.other) ∧
      match (c.party r).balanceProof with
      | some proof =>
        s.transferredAmount r = proof.transferredAmount ∧ s.locksroot r = proof.locksroot
      | none => s.transferredAmount r = 0 ∧ s.locksroot r = .zero := by
  simp only [transition, ite_error_eq_ok_iff] at ht
  obtain ⟨-, -, -, rfl⟩ := settle_eq_ok_iff.mp ht.2
  refine ⟨c.settlementNow, rfl, fun r => ⟨?_, balance_settlementNow h r, ?_⟩⟩
  · rw [balance_settlementNow h, toNat_balance h, due_eq]
    omega
  · have transferred : c.settlementNow.transferredAmount r = (c.party r).transferredAmount := by
      cases r <;> rfl
    have pending : c.settlementNow.locksroot r = (c.party r).locksroot := by
      cases r <;> rfl
    rw [transferred, pending, Participant.transferredAmount, Participant.locksroot]
    cases (c.party r).balanceProof with
    | none => exact ⟨rfl, rfl⟩
    | some proof => exact ⟨rfl, rfl⟩

end Channel

/-- In the sample dispute the first end settles the channel after the punishment. -/
theorem Sample.settle_accepted :
    ∃ t, (updated.afterPunish record).transition settle.change settle.block = .ok t := by
  have hs : (updated.afterPunish record).Step settle.block settle.change ⟨_, _⟩ :=
    .settle .ours (by decide) ⟨15, by decide, by decide⟩
  exact ⟨_, hs.transition_eq (by decide)⟩

namespace Channel

/-- The first end has forfeited the small lock to the second one. -/
theorem settles_by_formula_sample : (Sample.updated.afterPunish Sample.record).Fits ∧ ∃ t s,
    (Sample.updated.afterPunish Sample.record).transition Sample.settle.change
      Sample.settle.block = .ok t ∧
    t.channel.settlement = some s ∧ (s.balance .ours).toNat = 20 ∧
    (s.balance .partner).toNat = 25 := by
  have fits : (Sample.updated.afterPunish Sample.record).Fits := by decide
  have ours : (Sample.updated.afterPunish Sample.record).due .ours = 20 := by decide
  have partner : (Sample.updated.afterPunish Sample.record).due .partner = 25 := by decide
  have both : (Sample.updated.afterPunish Sample.record).deposits = 45 := by decide
  obtain ⟨t, accepted⟩ := Sample.settle_accepted
  obtain ⟨s, recorded, formula⟩ := settles_by_formula fits accepted
  have hours := (formula .ours).1
  have hpartner := (formula .partner).1
  rw [ours, both] at hours
  rw [partner, both] at hpartner
  exact ⟨fits, t, s, accepted, recorded, by omega, by omega⟩

end Channel

end PaymentChannel
