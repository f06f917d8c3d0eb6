import PaymentChannel.Proofs.Channel.Lifecycle

/-!
# The deadlines of a dispute

Each deadline is a saturating sum of 64-bit block numbers.  A block is never beyond the largest
number, so comparing it with such a sum is the same as comparing it with the exact one.

* `Channel.ValidUpdate`, `Channel.ValidPunishment` : everything that the rules ask of an update and
  of a punishment, apart from the block.
* `Channel.ValidUpdate.accepted`, `Channel.ValidUpdate.expired` and their like : each of the three
  steps is accepted or refused by its block alone, whatever is checked after the block.
* `Channel.validUpdate_of_accepted`, `Channel.validPunishment_of_accepted` : nothing else is
  accepted at any block.
* `Channel.Deadlines`, `Channel.deadlines_of_run` : so it is after every run that leaves the channel
  under dispute, and at no block both an update and a settlement are accepted.
-/

namespace PaymentChannel

namespace Quantity

variable {a b x : Quantity}

theorem saturatingAdd_lt_iff : a.saturatingAdd b < x ↔ a.toNat + b.toNat < x.toNat := by
  rw [← UInt64.not_le, le_saturatingAdd_iff, Nat.not_le]

/-- A sum below some quantity is exact. -/
theorem toNat_saturatingAdd_of_lt (h : a.saturatingAdd b < x) :
    (a.saturatingAdd b).toNat = a.toNat + b.toNat := by
  have hx : x.toNat ≤ largest.toNat := Nat.le_of_lt_succ x.toNat_lt
  have exact := saturatingAdd_lt_iff.mp h
  rw [toNat_saturatingAdd]
  omega

theorem toNat_saturatingAdd_one :
    ((a.saturatingAdd b).saturatingAdd 1).toNat =
      min (a.toNat + b.toNat + 1) largest.toNat := by
  have one : (1 : Quantity).toNat = 1 := rfl
  rw [toNat_saturatingAdd, toNat_saturatingAdd, one]
  omega

end Quantity

namespace Channel

variable {c : Channel} {block timeoutEnd updated : BlockNumber} {sender : Address}
  {proof : BalanceProof} {request : PunishRequest} {lock : Lock}

/-! ## What does not depend on the block -/

/-- The sender is the counterparty of a signer whose authentic proof supersedes the recorded one. -/
def ValidUpdate (c : Channel) (sender : Address) (proof : BalanceProof) : Prop :=
  ∃ signer : Role, sender = (c.party signer.other).address ∧ c.Authentic signer proof ∧
    Supersedes proof (c.party signer).balanceProof

/-- A participant sends evidence against an update of its beneficiary, good at the block of this
update. -/
def ValidPunishment (c : Channel) (sender : Address) (request : PunishRequest) (lock : Lock)
    (updated : BlockNumber) : Prop :=
  (∃ r, sender = (c.party r).address) ∧ ∃ beneficiary cheater proof,
    c.Punishable beneficiary cheater request lock updated updated proof

/-! ## Accepted or refused by the block alone -/

theorem transition_of_disputed (disputed : c.status.isUnderDispute = true) (change : StateChange) :
    c.transition change block = match change with
      | .close sender proof => c.close sender proof block
      | .update sender proof => c.update sender proof block
      | .punish sender request lock => c.punish sender request lock block
      | .settle sender => c.settle sender block :=
  if_neg (not_settled_of_disputed disputed)

theorem ValidUpdate.accepted (valid : c.ValidUpdate sender proof) (h : c.Distinct)
    (disputed : c.status.isUnderDispute = true) (ends : c.settleTimeoutEnd = some timeoutEnd)
    (inTime : block ≤ timeoutEnd) : ∃ t, c.transition (.update sender proof) block = .ok t := by
  obtain ⟨signer, rfl, authentic, newer⟩ := valid
  have hs := Step.update signer proof disputed ⟨timeoutEnd, ends, inTime⟩ authentic newer
  exact ⟨_, hs.transition_eq h⟩

theorem ValidUpdate.expired (valid : c.ValidUpdate sender proof) (h : c.Distinct)
    (disputed : c.status.isUnderDispute = true) (ends : c.settleTimeoutEnd = some timeoutEnd)
    (late : timeoutEnd < block) :
    c.transition (.update sender proof) block = .error (.windowExpired block timeoutEnd) := by
  obtain ⟨signer, rfl, -, -⟩ := valid
  have underDispute : c.checkUnderDispute = .ok () := checkUnderDispute_eq_ok_iff.mpr disputed
  have window := requireSettleTimeoutEnd_eq_ok_iff.mpr ends
  simp only [transition_of_disputed disputed, update, underDispute, counterparty_address h,
    checkUpdate, window, ok_bind, if_pos late, error_bind]

theorem settle_elapsed (h : c.Distinct) (disputed : c.status.isUnderDispute = true)
    (ends : c.settleTimeoutEnd = some timeoutEnd) (elapsed : timeoutEnd < block) (r : Role) :
    ∃ t, c.transition (.settle (c.party r).address) block = .ok t := by
  have hs := Step.settle r disputed ⟨timeoutEnd, ends, elapsed⟩
  exact ⟨_, hs.transition_eq h⟩

theorem settle_pending (h : c.Distinct) (disputed : c.status.isUnderDispute = true)
    (ends : c.settleTimeoutEnd = some timeoutEnd) (early : block ≤ timeoutEnd) (r : Role) :
    c.transition (.settle (c.party r).address) block =
      .error (.settleTimeoutPending block (timeoutEnd.saturatingAdd 1)) := by
  have underDispute : c.checkUnderDispute = .ok () := checkUnderDispute_eq_ok_iff.mpr disputed
  have window := requireSettleTimeoutEnd_eq_ok_iff.mpr ends
  simp only [transition_of_disputed disputed, settle, underDispute, ends_address h, window, ok_bind,
    if_pos early, error_bind]

theorem ValidPunishment.accepted (valid : c.ValidPunishment sender request lock updated)
    (h : c.Distinct) (disputed : c.status.isUnderDispute = true)
    (inWindow : block ≤ updated.saturatingAdd c.punishWindow) :
    ∃ t, c.transition (.punish sender request lock) block = .ok t := by
  obtain ⟨⟨r, rfl⟩, beneficiary, cheater, proof, evidence⟩ := valid
  obtain ⟨signature, signed, -⟩ := signerOf_eq_ok_iff.mp evidence.signer
  have now : c.Punishable beneficiary cheater request lock block updated proof :=
    { evidence with inWindow := inWindow }
  have ht := punish_eq_ok_iff.mpr ⟨disputed, ⟨_, ends_address h r⟩, beneficiary, cheater, updated,
    proof, signature, now, signed, rfl⟩
  exact ⟨_, (transition_of_disputed disputed _).trans ht⟩

theorem ValidPunishment.expired (valid : c.ValidPunishment sender request lock updated)
    (h : c.Distinct) (disputed : c.status.isUnderDispute = true)
    (late : updated.saturatingAdd c.punishWindow < block) :
    c.transition (.punish sender request lock) block =
      .error (.windowExpired block (updated.saturatingAdd c.punishWindow)) := by
  obtain ⟨⟨r, rfl⟩, beneficiary, cheater, proof, evidence⟩ := valid
  have underDispute : c.checkUnderDispute = .ok () := checkUnderDispute_eq_ok_iff.mpr disputed
  have own : ¬(request.identifier ≠ c.identifier ∨ request.openBlock ≠ c.openBlock) := by
    simp [evidence.identifier, evidence.openBlock]
  have found : updateOf beneficiary = .ok (updated, proof.locksroot) :=
    updateOf_eq_ok_iff.mpr ⟨proof, evidence.updateBlock, evidence.balanceProof, rfl⟩
  simp only [transition_of_disputed disputed, punish, underDispute, checkPunish, ends_address h,
    if_neg own, evidence.ends, found, ok_bind, if_pos late, error_bind]

/-- Nothing but a valid update is ever accepted. -/
theorem validUpdate_of_accepted (h : c.Distinct) {t : Transition}
    (ht : c.transition (.update sender proof) block = .ok t) : c.ValidUpdate sender proof := by
  cases Step.of_transition h ht with
  | update signer _ _ _ authentic newer => exact ⟨signer, rfl, authentic, newer⟩

/-- Nothing but a valid punishment is ever accepted. -/
theorem validPunishment_of_accepted (h : c.Distinct) {t : Transition}
    (ht : c.transition (.punish sender request lock) block = .ok t) :
    ∃ updated, c.ValidPunishment sender request lock updated := by
  cases Step.of_transition h ht with
  | punish s _ _ _ updated _ _ _ evidence =>
    have atUpdate : updated ≤ updated.saturatingAdd c.punishWindow :=
      Quantity.le_saturatingAdd_iff.mpr (Nat.le_add_right ..)
    exact ⟨updated, ⟨s, rfl⟩, _, _, _, { evidence with inWindow := atUpdate }⟩

/-! ## The deadlines together -/

/-- What the rules make of a block while the channel is under dispute, closed at the given block.
The sums are those of the numbers, without a bound. -/
structure Deadlines (c : Channel) (closed block : BlockNumber) : Prop where
  /-- A valid update is accepted up to the last block of the settle timeout. -/
  update : ∀ sender proof, c.ValidUpdate sender proof →
    if block.toNat ≤ closed.toNat + c.settleTimeout.toNat then
      ∃ t, c.transition (.update sender proof) block = .ok t
    else ∃ e, c.transition (.update sender proof) block = .error (.windowExpired block e) ∧
      e.toNat = closed.toNat + c.settleTimeout.toNat
  /-- A settlement by a participant is accepted after it. -/
  settle : ∀ r, if closed.toNat + c.settleTimeout.toNat < block.toNat then
      ∃ t, c.transition (.settle (c.party r).address) block = .ok t
    else ∃ e, c.transition (.settle (c.party r).address) block =
        .error (.settleTimeoutPending block e) ∧
      e.toNat = min (closed.toNat + c.settleTimeout.toNat + 1) Quantity.largest.toNat
  /-- A valid punishment is accepted up to the last block of the punish window of its update. -/
  punish : ∀ sender request lock updated, c.ValidPunishment sender request lock updated →
    if block.toNat ≤ updated.toNat + c.punishWindow.toNat then
      ∃ t, c.transition (.punish sender request lock) block = .ok t
    else ∃ e, c.transition (.punish sender request lock) block = .error (.windowExpired block e) ∧
      e.toNat = updated.toNat + c.punishWindow.toNat
  exclusive : ¬((∃ sender proof t, c.transition (.update sender proof) block = .ok t) ∧
    ∃ sender t, c.transition (.settle sender) block = .ok t)
  covering : (∀ sender proof, c.ValidUpdate sender proof →
      ∃ t, c.transition (.update sender proof) block = .ok t) ∨
    ∀ r, ∃ t, c.transition (.settle (c.party r).address) block = .ok t

/-- An update and a settlement look at the same end of the settle timeout, from its two sides. -/
theorem not_update_and_settle (h : c.Distinct) {proof : BalanceProof} {settler : Address}
    {t t' : Transition} (updates : c.transition (.update sender proof) block = .ok t)
    (settles : c.transition (.settle settler) block = .ok t') : False := by
  cases Step.of_transition h updates with
  | update _ _ _ inTime =>
    cases Step.of_transition h settles with
    | settle _ _ elapsed =>
      obtain ⟨e, he, le⟩ := inTime
      obtain ⟨e', he', lt⟩ := elapsed
      obtain rfl := Option.some.inj (he.symm.trans he')
      exact absurd (UInt64.lt_of_lt_of_le lt le) (UInt64.lt_irrefl _)

theorem deadlines (h : c.Distinct) (disputed : c.status.isUnderDispute = true)
    {closed : BlockNumber} (hclosed : c.closeBlock = some closed) : c.Deadlines closed block := by
  have ends : c.settleTimeoutEnd = some (closed.saturatingAdd c.settleTimeout) := by
    rw [settleTimeoutEnd, hclosed]
    rfl
  refine ⟨?_, ?_, ?_, ?_, ?_⟩
  · intro sender proof valid
    split
    · next inTime =>
      exact valid.accepted h disputed ends (Quantity.le_saturatingAdd_iff.mpr inTime)
    · next late =>
      have late := Quantity.saturatingAdd_lt_iff.mpr (Nat.not_le.mp late)
      exact ⟨_, valid.expired h disputed ends late, Quantity.toNat_saturatingAdd_of_lt late⟩
  · intro r
    split
    · next elapsed =>
      exact settle_elapsed h disputed ends (Quantity.saturatingAdd_lt_iff.mpr elapsed) r
    · next early =>
      have early := Quantity.le_saturatingAdd_iff.mpr (Nat.not_lt.mp early)
      exact ⟨_, settle_pending h disputed ends early r, Quantity.toNat_saturatingAdd_one⟩
  · intro sender request lock updated valid
    split
    · next inWindow => exact valid.accepted h disputed (Quantity.le_saturatingAdd_iff.mpr inWindow)
    · next late =>
      have late := Quantity.saturatingAdd_lt_iff.mpr (Nat.not_le.mp late)
      exact ⟨_, valid.expired h disputed late, Quantity.toNat_saturatingAdd_of_lt late⟩
  · rintro ⟨⟨sender, proof, t, updates⟩, settler, t', settles⟩
    exact not_update_and_settle h updates settles
  · by_cases inTime : block ≤ closed.saturatingAdd c.settleTimeout
    · exact Or.inl fun sender proof valid => valid.accepted h disputed ends inTime
    · exact Or.inr fun r => settle_elapsed h disputed ends (UInt64.not_le.mp inTime) r

/-! ## Runs -/

/-- A run that leaves the channel under dispute has closed it. -/
theorem closeBlock_of_disputed (h : c.Fresh) (attempts : List Attempt)
    (disputed : (c.run attempts).status.isUnderDispute = true) :
    ∃ a ∈ c.history attempts, a.change.kind = .close ∧
      (c.run attempts).closeBlock = some a.block := by
  have closed := (lawful_of_run h attempts).closed_of_disputed disputed
  by_cases hpos : 0 < c.admitted .close attempts
  · obtain ⟨a, ha, hkind⟩ := admitted_pos_iff.mp hpos
    refine ⟨a, ha, hkind, ?_⟩
    rw [closeBlock, (closed_of_mem_history (lawful_of_fresh h) ha hkind).1]
    rfl
  · have unclosed := unclosed_of_run h attempts fun a ha hkind =>
      hpos (admitted_pos_iff.mpr ⟨a, ha, hkind⟩)
    exact absurd unclosed closed

/-- **The deadlines of a dispute are exact and never overlap.**  A run that leaves the channel under
dispute has closed it at some block, and every block is dealt with as the deadlines say. -/
theorem deadlines_of_run (h : c.Fresh) (past : List Attempt)
    (disputed : (c.run past).status.isUnderDispute = true) :
    ∃ close ∈ c.history past, close.change.kind = .close ∧
      (c.run past).closeBlock = some close.block ∧
      ∀ block, (c.run past).Deadlines close.block block := by
  obtain ⟨a, ha, hkind, hclosed⟩ := closeBlock_of_disputed h past disputed
  exact ⟨a, ha, hkind, hclosed, fun _ => deadlines (lawful_of_run h past).distinct disputed hclosed⟩

/-- The first end of the sample dispute holds a proof for an update. -/
theorem validUpdate_sample :
    (Sample.channel.afterClose .partner none 10).ValidUpdate Sample.first Sample.proof := by
  have signed : Sample.proof.verify Sample.second = .ok () :=
    BalanceProof.verify_eq_ok_iff.mpr Sample.signer_proof
  exact ⟨.partner, rfl, ⟨rfl, rfl, signed⟩, fun _ h => by cases h⟩

/-- Against this update the second end holds the evidence for a punishment. -/
theorem validPunishment_sample :
    Sample.updated.ValidPunishment Sample.second Sample.request Sample.smallLock 15 :=
  ⟨⟨.partner, rfl⟩, _, _, _, { Sample.punishable with inWindow := by decide }⟩

/-- In the sample dispute, 15 is the last block for an update, 16 the first one for a settlement,
and 115 the last one for a punishment. -/
theorem deadlines_of_sample : Sample.channel.Fresh ∧
    (Sample.channel.run [Sample.close]).status.isUnderDispute = true ∧
    (Sample.channel.run [Sample.close, Sample.update]).status.isUnderDispute = true ∧
    (∃ t, (Sample.channel.run [Sample.close]).transition Sample.update.change 15 = .ok t) ∧
    (∃ e, (Sample.channel.run [Sample.close]).transition Sample.update.change 16 =
      .error (.windowExpired 16 e) ∧ e.toNat = 15) ∧
    (∃ t, (Sample.channel.run [Sample.close]).transition Sample.settle.change 16 = .ok t) ∧
    (∃ t, (Sample.channel.run [Sample.close, Sample.update]).transition Sample.punish.change 115 =
      .ok t) ∧
    ∃ e, (Sample.channel.run [Sample.close, Sample.update]).transition Sample.punish.change 116 =
      .error (.windowExpired 116 e) ∧ e.toNat = 115 := by
  have run_closed : Sample.channel.run [Sample.close] =
      Sample.channel.afterClose .partner none 10 :=
    Sample.attempt_close
  have disputed : (Sample.channel.run [Sample.close]).status.isUnderDispute = true := by
    rw [run_closed]
    decide
  have disputed' : (Sample.channel.run [Sample.close, Sample.update]).status.isUnderDispute =
      true := by
    rw [Sample.run_updated]
    decide
  obtain ⟨a, -, -, hclosed, exact⟩ := deadlines_of_run Sample.fresh_channel [Sample.close] disputed
  obtain ⟨_, -, -, -, exact'⟩ :=
    deadlines_of_run Sample.fresh_channel [Sample.close, Sample.update] disputed'
  rw [run_closed] at hclosed exact
  have closedAt : a.block = 10 := (Option.some.inj hclosed).symm
  rw [closedAt] at exact
  rw [Sample.run_updated] at exact'
  have last := (exact 15).update _ _ validUpdate_sample
  have late := (exact 16).update _ _ validUpdate_sample
  have first := (exact 16).settle .ours
  have last' := (exact' 115).punish _ _ _ _ validPunishment_sample
  have late' := (exact' 116).punish _ _ _ _ validPunishment_sample
  rw [if_pos (by decide)] at last first last'
  rw [if_neg (by decide)] at late late'
  rw [run_closed] at disputed ⊢
  rw [Sample.run_updated] at disputed' ⊢
  exact ⟨Sample.fresh_channel, disputed, disputed', last, late, first, last', late'⟩

end Channel

end PaymentChannel
