import PaymentChannel.Proofs.Channel.Check

/-!
# The steps that the rules admit

`Channel.transition` looks an end up by address several times in one step.  On different addresses
all these lookups agree, and what is left is a relation with one constructor for each kind of step.

* `Channel.afterClose`, `Channel.afterUpdate`, `Channel.afterPunish`, `Channel.afterSettle` : what
  a step makes of the channel.
* `Channel.close_inv`, `Channel.update_inv` : what an admitted close and an admitted update have
  checked, whatever the addresses.
* `Channel.Step` : the admitted steps.
* `Channel.transition_eq_ok_iff` : the rules admit exactly these.
-/

namespace PaymentChannel

namespace Channel

variable {c : Channel} {block : BlockNumber} {t : Transition}

/-! ## What a step makes of the channel -/

/-- The counterparty of the signer has closed the channel with the signer's proof. -/
def afterClose (c : Channel) (signer : Role) (proof : Option BalanceProof) (block : BlockNumber) :
    Channel :=
  { c.setParty signer { c.party signer with balanceProof := proof } with
    closingParticipant := some (c.party signer.other).address
    closeTransaction := some (.succeeded block) }

/-- The counterparty of the signer has recorded a newer proof of the signer. -/
def afterUpdate (c : Channel) (signer : Role) (proof : BalanceProof) (block : BlockNumber) :
    Channel :=
  { c.setParty signer
      { c.party signer with balanceProof := some proof, updateBlock := some block } with
    updateTransaction := some (.succeeded block) }

/-- What the channel keeps of a punishment. -/
def punishment (cheater : Participant) (request : PunishRequest) (lock : Lock)
    (proof : BalanceProof) (block : BlockNumber) : Punishment where
  beneficiary := request.beneficiary
  cheater := cheater.address
  lockHash := request.lockHash
  locksroot := proof.locksroot
  amount := lock.amount
  block := block

/-- A lock has been forfeited. -/
def afterPunish (c : Channel) (p : Punishment) : Channel :=
  { c with punishments := c.punishments ++ [p] }

/-- The channel has been settled. -/
def afterSettle (c : Channel) (block : BlockNumber) : Channel :=
  { c with
    settlement := some c.settlementNow
    settleTransaction := some (.succeeded block) }

/-- The admitted steps, each with its result. -/
inductive Step (c : Channel) (block : BlockNumber) : StateChange → Transition → Prop
  | close (signer : Role) (proof : Option BalanceProof) (opened : c.status = .opened)
      (authentic : ∀ p, proof = some p → c.Authentic signer p) :
      Step c block (.close (c.party signer.other).address proof)
        ⟨c.afterClose signer proof block,
          [.sendClose block c.identifier (c.party signer).address proof]⟩
  | update (signer : Role) (proof : BalanceProof) (disputed : c.status.isUnderDispute = true)
      (inTime : ∃ e, c.settleTimeoutEnd = some e ∧ block ≤ e) (authentic : c.Authentic signer proof)
      (newer : Supersedes proof (c.party signer).balanceProof) :
      Step c block (.update (c.party signer.other).address proof)
        ⟨c.afterUpdate signer proof block,
          [.sendUpdate block c.identifier (c.party signer).address proof]⟩
  | punish (sender beneficiary : Role) (request : PunishRequest) (lock : Lock)
      (updated : BlockNumber) (proof : BalanceProof) (signature : Bytes)
      (disputed : c.status.isUnderDispute = true)
      (punishable : c.Punishable (c.party beneficiary) (c.party beneficiary.other) request lock
        block updated proof) (signed : request.signature = some signature) :
      Step c block (.punish (c.party sender).address request lock)
        ⟨c.afterPunish (punishment (c.party beneficiary.other) request lock proof block),
          [.sendPunish block c.identifier request.openBlock request.beneficiary
            (c.party beneficiary.other).address request.lockHash request.additionalHash
            signature]⟩
  | settle (sender : Role) (disputed : c.status.isUnderDispute = true)
      (elapsed : ∃ e, c.settleTimeoutEnd = some e ∧ e < block) :
      Step c block (.settle (c.party sender).address)
        ⟨c.afterSettle block,
          [.sendSettle block c.identifier c.ours.address c.partner.address c.settlementNow]⟩

/-! ## The four kinds of step -/

/-- What an admitted close has checked and leaves, for ends of the same address, too. -/
theorem close_inv {sender : Address} {proof : Option BalanceProof}
    (ht : c.close sender proof block = .ok t) :
    c.status = .opened ∧ ∃ signer, sender = (c.party signer.other).address ∧
      (∀ p, proof = some p → c.Authentic signer p) ∧
      t = ⟨{ c.updateEnd (c.party signer).address (fun p => { p with balanceProof := proof }) with
          closingParticipant := some sender
          closeTransaction := some (.succeeded block) },
        [.sendClose block c.identifier (c.party signer).address proof]⟩ := by
  simp only [close, bind_eq_ok_iff, error_bind, ite_error_eq_ok_iff, ne_eq,
    Decidable.not_not] at ht
  obtain ⟨opened, partner, hs, ht⟩ := ht
  obtain ⟨signer, rfl, rfl⟩ := counterparty_eq_ok hs
  refine ⟨opened, signer, rfl, ?_⟩
  cases proof with
  | none =>
    simp only [pure_eq_ok_iff] at ht
    refine ⟨fun _ hp => ?_, ht.symm⟩
    cases hp
  | some p =>
    simp only [bind_eq_ok_iff, pure_eq_ok_iff] at ht
    obtain ⟨⟨⟩, hp, ht⟩ := ht
    refine ⟨fun q hq => ?_, ht.symm⟩
    cases hq
    exact checkBalanceProof_eq_ok_iff.mp hp

theorem close_eq_ok_iff (h : c.Distinct) {sender : Address} {proof : Option BalanceProof} :
    c.close sender proof block = .ok t ↔
      c.status = .opened ∧ ∃ signer, sender = (c.party signer.other).address ∧
        (∀ p, proof = some p → c.Authentic signer p) ∧
        t = ⟨c.afterClose signer proof block,
          [.sendClose block c.identifier (c.party signer).address proof]⟩ := by
  constructor
  · intro ht
    obtain ⟨opened, signer, rfl, hp, rfl⟩ := close_inv ht
    rw [updateEnd_address h]
    exact ⟨opened, signer, rfl, hp, rfl⟩
  · rintro ⟨opened, signer, rfl, hp, rfl⟩
    simp only [close, bind_eq_ok_iff, error_bind, ite_error_eq_ok_iff, ne_eq, Decidable.not_not]
    refine ⟨opened, _, counterparty_address h signer, ?_⟩
    cases proof with
    | none =>
      simp only [updateEnd_address h]
      rfl
    | some p =>
      simp only [checkBalanceProof_eq_ok_iff.mpr (hp p rfl), updateEnd_address h]
      rfl

/-- What an admitted update has checked and leaves, for ends of the same address, too. -/
theorem update_inv {sender : Address} {proof : BalanceProof}
    (ht : c.update sender proof block = .ok t) :
    c.status.isUnderDispute = true ∧ ∃ signer, sender = (c.party signer.other).address ∧
      c.Authentic signer proof ∧ c.checkUpdate proof (c.party signer).address block = .ok () ∧
      t = ⟨{ c.updateEnd (c.party signer).address (fun p =>
            { p with balanceProof := some proof, updateBlock := some block }) with
          updateTransaction := some (.succeeded block) },
        [.sendUpdate block c.identifier (c.party signer).address proof]⟩ := by
  simp only [update, bind_eq_ok_iff, checkUnderDispute_eq_ok_iff, pure_eq_ok_iff,
    exists_const] at ht
  obtain ⟨disputed, partner, hs, ⟨⟩, hc, rfl⟩ := ht
  obtain ⟨signer, rfl, rfl⟩ := counterparty_eq_ok hs
  have hp := hc
  simp only [checkUpdate, bind_eq_ok_iff, error_bind, ite_error_eq_ok_iff] at hp
  obtain ⟨-, -, -, ⟨⟩, hp, -⟩ := hp
  exact ⟨disputed, signer, rfl, checkBalanceProof_eq_ok_iff.mp hp, hc, rfl⟩

theorem update_eq_ok_iff (h : c.Distinct) {sender : Address} {proof : BalanceProof} :
    c.update sender proof block = .ok t ↔
      c.status.isUnderDispute = true ∧ ∃ signer, sender = (c.party signer.other).address ∧
        (∃ e, c.settleTimeoutEnd = some e ∧ block ≤ e) ∧ c.Authentic signer proof ∧
        Supersedes proof (c.party signer).balanceProof ∧
        t = ⟨c.afterUpdate signer proof block,
          [.sendUpdate block c.identifier (c.party signer).address proof]⟩ := by
  constructor
  · intro ht
    obtain ⟨disputed, signer, rfl, -, hc, rfl⟩ := update_inv ht
    obtain ⟨hw, ha, hn⟩ := (checkUpdate_eq_ok_iff h).mp hc
    rw [updateEnd_address h]
    exact ⟨disputed, signer, rfl, hw, ha, hn, rfl⟩
  · rintro ⟨disputed, signer, rfl, hw, ha, hn, rfl⟩
    simp only [update, bind_eq_ok_iff, checkUnderDispute_eq_ok_iff, pure_eq_ok_iff, exists_const]
    refine ⟨disputed, _, counterparty_address h signer, (),
      (checkUpdate_eq_ok_iff h).mpr ⟨hw, ha, hn⟩, ?_⟩
    rw [updateEnd_address h]
    rfl

/-- This one holds for ends of the same address, too. -/
theorem punish_eq_ok_iff {sender : Address} {request : PunishRequest} {lock : Lock} :
    c.punish sender request lock block = .ok t ↔
      c.status.isUnderDispute = true ∧ (∃ e, c.ends sender = .ok e) ∧
        ∃ beneficiary cheater updated proof signature,
          c.Punishable beneficiary cheater request lock block updated proof ∧
          request.signature = some signature ∧
          t = ⟨c.afterPunish (punishment cheater request lock proof block),
            [.sendPunish block c.identifier request.openBlock request.beneficiary cheater.address
              request.lockHash request.additionalHash signature]⟩ := by
  simp only [punish, bind_eq_ok_iff, checkUnderDispute_eq_ok_iff, checkPunish_eq_ok_iff,
    exists_const]
  refine and_congr_right fun _ => ?_
  constructor
  · rintro ⟨_, ⟨hs, beneficiary, cheater, updated, proof, hp, rfl⟩, ht⟩
    refine ⟨hs, beneficiary, cheater, updated, proof, ?_⟩
    cases hsig : request.signature with
    | none => simp [hsig] at ht
    | some signature =>
      simp only [hsig, pure_eq_ok_iff] at ht
      exact ⟨signature, hp, rfl, ht.symm⟩
  · rintro ⟨hs, beneficiary, cheater, updated, proof, signature, hp, hsig, rfl⟩
    refine ⟨_, ⟨hs, beneficiary, cheater, updated, proof, hp, rfl⟩, ?_⟩
    simp only [hsig]
    rfl

theorem settle_eq_ok_iff {sender : Address} :
    c.settle sender block = .ok t ↔
      c.status.isUnderDispute = true ∧ (∃ e, c.ends sender = .ok e) ∧
        (∃ e, c.settleTimeoutEnd = some e ∧ e < block) ∧
        t = ⟨c.afterSettle block,
          [.sendSettle block c.identifier c.ours.address c.partner.address c.settlementNow]⟩ := by
  simp only [settle, bind_eq_ok_iff, error_bind, ite_error_eq_ok_iff, UInt64.not_le,
    checkUnderDispute_eq_ok_iff, requireSettleTimeoutEnd_eq_ok_iff, pure_eq_ok_iff, exists_const]
  refine and_congr_right fun _ => ?_
  constructor
  · rintro ⟨e, hs, b, hb, hlt, ht⟩
    exact ⟨⟨e, hs⟩, ⟨b, hb, hlt⟩, ht.symm⟩
  · rintro ⟨⟨e, hs⟩, ⟨b, hb, hlt⟩, rfl⟩
    exact ⟨e, hs, b, hb, hlt, rfl⟩

/-- An admitted step is followed by one call, for ends of the same address, too. -/
theorem event_of_transition {change : StateChange} (ht : c.transition change block = .ok t) :
    ∃ event, t.events = [event] := by
  simp only [transition, ite_error_eq_ok_iff] at ht
  obtain ⟨-, ht⟩ := ht
  cases change with
  | close sender proof =>
    obtain ⟨-, signer, -, -, rfl⟩ := close_inv ht
    exact ⟨_, rfl⟩
  | update sender proof =>
    obtain ⟨-, signer, -, -, -, rfl⟩ := update_inv ht
    exact ⟨_, rfl⟩
  | punish sender request lock =>
    obtain ⟨-, -, beneficiary, cheater, updated, proof, signature, -, -, rfl⟩ :=
      punish_eq_ok_iff.mp ht
    exact ⟨_, rfl⟩
  | settle sender =>
    obtain ⟨-, -, -, rfl⟩ := settle_eq_ok_iff.mp ht
    exact ⟨_, rfl⟩

/-! ## The rules as a relation -/

theorem not_settled_of_disputed (h : c.status.isUnderDispute = true) : c.status ≠ .settled := by
  intro hs
  rw [hs] at h
  cases h

theorem Step.of_transition (h : c.Distinct) {change : StateChange}
    (ht : c.transition change block = .ok t) : c.Step block change t := by
  simp only [transition, ite_error_eq_ok_iff] at ht
  obtain ⟨-, ht⟩ := ht
  cases change with
  | close sender proof =>
    obtain ⟨ho, signer, rfl, ha, rfl⟩ := (close_eq_ok_iff h).mp ht
    exact .close signer proof ho ha
  | update sender proof =>
    obtain ⟨hd, signer, rfl, hw, ha, hn, rfl⟩ := (update_eq_ok_iff h).mp ht
    exact .update signer proof hd hw ha hn
  | punish sender request lock =>
    obtain ⟨hd, ⟨⟨a, b⟩, hs⟩, beneficiary, cheater, updated, proof, signature, hp, hsig, rfl⟩ :=
      punish_eq_ok_iff.mp ht
    obtain ⟨r, rfl, -, -⟩ := ends_eq_ok hs
    obtain ⟨s, -, rfl, rfl⟩ := ends_eq_ok hp.ends
    exact .punish r s request lock updated proof signature hd hp hsig
  | settle sender =>
    obtain ⟨hd, ⟨⟨a, b⟩, hs⟩, he, rfl⟩ := settle_eq_ok_iff.mp ht
    obtain ⟨r, rfl, -, -⟩ := ends_eq_ok hs
    exact .settle r hd he

/-- What an update by the opposite end of the given one takes and makes. -/
theorem Step.update_inv (h : c.Distinct) {r : Role} {proof : BalanceProof}
    (hs : c.Step block (.update (c.party r.other).address proof) t) :
    c.status.isUnderDispute = true ∧ Supersedes proof (c.party r).balanceProof ∧
      t.channel = c.afterUpdate r proof block := by
  generalize he : (c.party r.other).address = sender at hs
  cases hs with
  | update signer _ hd _ _ hn =>
    obtain rfl : r = signer := h.role_eq_of_other he
    exact ⟨hd, hn, rfl⟩

theorem Step.transition_eq (h : c.Distinct) {change : StateChange} (hs : c.Step block change t) :
    c.transition change block = .ok t := by
  simp only [transition, ite_error_eq_ok_iff]
  cases hs with
  | close signer proof ho ha =>
    exact ⟨by simp [ho], (close_eq_ok_iff h).mpr ⟨ho, signer, rfl, ha, rfl⟩⟩
  | update signer proof hd hw ha hn =>
    exact ⟨not_settled_of_disputed hd,
      (update_eq_ok_iff h).mpr ⟨hd, signer, rfl, hw, ha, hn, rfl⟩⟩
  | punish sender beneficiary request lock updated proof signature hd hp hsig =>
    exact ⟨not_settled_of_disputed hd, punish_eq_ok_iff.mpr
      ⟨hd, ⟨_, ends_address h sender⟩, _, _, updated, proof, signature, hp, hsig, rfl⟩⟩
  | settle sender hd he =>
    exact ⟨not_settled_of_disputed hd,
      settle_eq_ok_iff.mpr ⟨hd, ⟨_, ends_address h sender⟩, he, rfl⟩⟩

/-- **The rules admit exactly the steps of the relation.** -/
theorem transition_eq_ok_iff (h : c.Distinct) {change : StateChange} :
    c.transition change block = .ok t ↔ c.Step block change t :=
  ⟨Step.of_transition h, Step.transition_eq h⟩

end Channel

end PaymentChannel
