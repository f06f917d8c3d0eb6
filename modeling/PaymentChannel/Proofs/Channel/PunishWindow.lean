import PaymentChannel.Proofs.Channel.Punishment

/-!
# How long a lock can be punished

The punish window counts from the update, the settle timeout from the close.  A settlement looks at
the close alone, so it can end a punish window early.

* `Channel.Claimable` : the evidence for a punishment against the proof of an update.
* `Channel.Claimable.punishable` : it stays good while no newer update replaces the proof.
* `Channel.punish_window_of_run` : such a punishment is accepted within the punish window of the
  update until the channel is settled, and always within the settle timeout.
* `Channel.settle_cuts_punish_window` : a settlement can leave it refused within the punish window.
-/

namespace PaymentChannel

namespace Channel

variable {c : Channel} {attempts : List Attempt} {r : Role} {u b : BlockNumber}
  {proof : BalanceProof} {request : PunishRequest} {lock : Lock}

/-- In the run, an update recorded the proof for an end at block `u` and no newer one replaced it.
The request names this end as beneficiary, and its signature, lock hash and merkle proof are valid
against the proof.  The lock is not punished yet. -/
structure Claimable (c : Channel) (attempts : List Attempt) (r : Role) (u : BlockNumber)
    (proof : BalanceProof) (request : PunishRequest) (lock : Lock) : Prop where
  updated : ⟨.update (c.party r.other).address proof, u⟩ ∈ c.history attempts
  kept : ((c.run attempts).party r).balanceProof = some proof
  identifier : request.identifier = c.identifier
  openBlock : request.openBlock = c.openBlock
  beneficiary : request.beneficiary = (c.party r).address
  signer : request.signer = .ok (c.party r.other).address
  hash : lock.hash = request.lockHash
  committed : verifyProof request.lockHash request.merkleProof proof.locksroot = true
  unpunished : (c.run attempts).isLockPunished (c.party r.other).address request.lockHash = false

theorem Claimable.punishable (h : c.Claimable attempts r u proof request lock) (hl : c.Lawful)
    (inWindow : b.toNat ≤ u.toNat + c.punishWindow.toNat) :
    (c.run attempts).Punishable ((c.run attempts).party r) ((c.run attempts).party r.other) request
      lock b u proof := by
  obtain ⟨lawful, terms⟩ := lawful_run hl attempts
  have cheater := terms.address r.other
  exact {
    identifier := h.identifier.trans terms.identifier.symm
    openBlock := h.openBlock.trans terms.openBlock.symm
    ends := by rw [h.beneficiary, ← terms.address r, ends_address lawful.distinct]
    updateBlock := (updateBlock_of_kept hl h.updated h.kept).2
    balanceProof := h.kept
    inWindow := by
      rw [terms.punishWindow]
      exact Quantity.le_saturatingAdd_iff.mpr inWindow
    signer := by rw [cheater, h.signer]
    hash := h.hash
    committed := h.committed
    unpunished := by rw [cheater, h.unpunished] }

/-- Within its window, a claimable punishment is accepted unless the channel is settled. -/
theorem Claimable.accepted (h : c.Claimable attempts r u proof request lock) (hl : c.Lawful)
    (inWindow : b.toNat ≤ u.toNat + c.punishWindow.toNat)
    (hopen : (c.run attempts).status ≠ .settled) (sender : Role) :
    ∃ t, (c.run attempts).transition (.punish (c.party sender).address request lock) b = .ok t := by
  obtain ⟨lawful, terms⟩ := lawful_run hl attempts
  have disputed := disputed_of_closed (updateBlock_of_kept hl h.updated h.kept).1 hopen
  obtain ⟨signature, signed, -⟩ := signerOf_eq_ok_iff.mp h.signer
  rw [← terms.address sender]
  exact ⟨_, Step.transition_eq lawful.distinct
    (.punish sender r request lock u proof signature disputed (h.punishable hl inWindow) signed)⟩

/-- **The punish window of an update.**  A claimable punishment is accepted up to the last block of
its window as long as the run did not settle the channel, and after a settlement it is refused.  Up
to the last block of the settle timeout no settlement can come in between. -/
theorem punish_window_of_run (h : c.Fresh) (claim : c.Claimable attempts r u proof request lock)
    (inWindow : b.toNat ≤ u.toNat + c.punishWindow.toNat) (sender : Role) :
    ((∀ a ∈ c.history attempts, ∀ s, a.change ≠ .settle s) →
      ∃ t, (c.run attempts).transition (.punish (c.party sender).address request lock) b = .ok t) ∧
    ((∃ a ∈ c.history attempts, ∃ s, a.change = .settle s) →
      (c.run attempts).transition (.punish (c.party sender).address request lock) b =
        .error .channelFinalized) ∧
    ∀ closed, (c.run attempts).closeBlock = some closed →
      b.toNat ≤ closed.toNat + c.settleTimeout.toNat → (∀ a ∈ c.history attempts, a.block ≤ b) →
      ∃ t, (c.run attempts).transition (.punish (c.party sender).address request lock) b =
        .ok t := by
  have hl := lawful_of_fresh h
  have settled := settled_run_iff hl (by simp [status_of_fresh h]) attempts
  refine ⟨?_, ?_, ?_⟩
  · intro hn
    refine claim.accepted hl inWindow (fun hs => ?_) sender
    obtain ⟨a, ha, s, e⟩ := settled.mp hs
    exact hn a ha s e
  · intro hs
    rw [transition, if_pos (settled.mpr hs)]
  · intro closed hclosed hb hblocks
    refine claim.accepted hl inWindow (fun hs => ?_) sender
    obtain ⟨a, ha, s, e⟩ := settled.mp hs
    obtain ⟨timeoutEnd, hend, hlt⟩ := settle_after_timeout hl ha e
    rw [settleTimeoutEnd, hclosed, (sameTerms_of_run h attempts).settleTimeout] at hend
    obtain rfl := Option.some.inj hend
    -- The settlement would come after the settle timeout, which is not over at `b`.
    have early := Quantity.le_saturatingAdd_iff.mpr hb
    have later := UInt64.lt_of_lt_of_le hlt (UInt64.le_trans (hblocks a ha) early)
    exact absurd later (UInt64.lt_irrefl _)

/-! ## The punish window of the sample dispute -/

/-- In every run that keeps the update of the sample dispute as it is, the small lock is
claimable. -/
theorem claimable_sample {attempts : List Attempt}
    (updated : (Sample.channel.run attempts).party .partner = Sample.updated.party .partner)
    (unpunished : (Sample.channel.run attempts).punishments = []) :
    Sample.channel.Claimable attempts .partner 15 Sample.proof Sample.request Sample.smallLock where
  updated := updated_of_run (lawful_of_fresh Sample.fresh_channel) rfl attempts
    (by rw [updated]; rfl) (by rw [updated]; rfl)
  kept := by rw [updated]; rfl
  identifier := rfl
  openBlock := rfl
  beneficiary := rfl
  signer := Sample.signer_request
  hash := Sample.hash_smallLock
  committed := Sample.committed
  unpunished := by rw [isLockPunished, unpunished]; rfl

/-- The sample dispute accepts the punishment one block after the settle timeout. -/
theorem punish_window_of_sample : Sample.channel.Fresh ∧
    Sample.channel.Claimable [Sample.close, Sample.update] .partner 15 Sample.proof Sample.request
      Sample.smallLock ∧
    (16 : BlockNumber).toNat ≤ (15 : BlockNumber).toNat + Sample.channel.punishWindow.toNat ∧
    ∃ t, (Sample.channel.run [Sample.close, Sample.update]).transition Sample.punish.change 16 =
      .ok t := by
  have claim : Sample.channel.Claimable [Sample.close, Sample.update] .partner 15 Sample.proof
      Sample.request Sample.smallLock :=
    claimable_sample (by rw [Sample.run_updated]) (by rw [Sample.run_updated]; rfl)
  have inWindow : (16 : BlockNumber).toNat ≤
      (15 : BlockNumber).toNat + Sample.channel.punishWindow.toNat := by decide
  refine ⟨Sample.fresh_channel, claim, inWindow,
    (punish_window_of_run Sample.fresh_channel claim inWindow .partner).1 ?_⟩
  intro a ha s
  have ha := mem_of_mem_history ha
  simp only [List.mem_cons, List.not_mem_nil, or_false] at ha
  rcases ha with rfl | rfl <;> simp [Sample.close, Sample.update]

/-- **A settlement can cut a punish window short.**  In the sample dispute the settlement at the
block after the settle timeout leaves a claimable punishment refused within its window. -/
theorem settle_cuts_punish_window : ¬∀ (c : Channel) (attempts : List Attempt) (r sender : Role)
    (u b : BlockNumber) (proof : BalanceProof) (request : PunishRequest) (lock : Lock), c.Fresh →
    c.Claimable attempts r u proof request lock → u ≤ b →
    b.toNat ≤ u.toNat + c.punishWindow.toNat → (∀ a ∈ c.history attempts, a.block ≤ b) →
    ∃ t, (c.run attempts).transition (.punish (c.party sender).address request lock) b = .ok t := by
  intro h
  have claim : Sample.channel.Claimable [Sample.close, Sample.update, Sample.settle] .partner 15
      Sample.proof Sample.request Sample.smallLock :=
    claimable_sample (by rw [Sample.run_settled]; rfl) (by rw [Sample.run_settled]; rfl)
  have blocks : ∀ a ∈ Sample.channel.history [Sample.close, Sample.update, Sample.settle],
      a.block ≤ 16 := by
    intro a ha
    have ha := mem_of_mem_history ha
    simp only [List.mem_cons, List.not_mem_nil, or_false] at ha
    rcases ha with rfl | rfl | rfl <;> decide
  obtain ⟨t, ht⟩ := h _ _ .partner .partner 15 16 _ _ _ Sample.fresh_channel claim (by decide)
    (by decide) blocks
  rw [Sample.run_settled, transition, if_pos (by decide)] at ht
  cases ht

end Channel

end PaymentChannel
