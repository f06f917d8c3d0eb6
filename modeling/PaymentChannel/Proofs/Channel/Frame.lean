import PaymentChannel.Proofs.Channel.Status

/-!
# What an update and a punishment read

An update reads the end of the signer, and a punishment reads the end of its beneficiary and whether
the lock was taken before.  The rest of what they read was fixed when the channel was opened or
closed.

* `Channel.SameDispute` : two channels under dispute with the same terms and the same timeout.
* `Channel.SameDispute.update`, `Channel.SameDispute.punish` : a step that one of them admits is
  admitted by the other one, if it reads the same there.
* `Channel.Step.sameDispute` : an update or a punishment leaves the same dispute.
-/

namespace PaymentChannel

namespace Channel

variable {c d : Channel} {block : BlockNumber} {change : StateChange} {t : Transition} {r : Role}

theorem SameTerms.symm (h : SameTerms c d) : SameTerms d c :=
  ⟨h.identifier.symm, h.openBlock.symm, h.settleTimeout.symm, h.punishWindow.symm,
    fun r => (h.address r).symm, fun r => (h.deposit r).symm⟩

/-- Two channels under dispute with the same terms and the same timeout. -/
structure SameDispute (c d : Channel) : Prop where
  terms : SameTerms c d
  settleTimeoutEnd : d.settleTimeoutEnd = c.settleTimeoutEnd
  disputed : c.status.isUnderDispute = true
  disputed' : d.status.isUnderDispute = true

namespace SameDispute

theorem symm (h : c.SameDispute d) : d.SameDispute c where
  terms := h.terms.symm
  settleTimeoutEnd := h.settleTimeoutEnd.symm
  disputed := h.disputed'
  disputed' := h.disputed

theorem update (h : c.SameDispute d) (same : d.party r = c.party r) {proof : BalanceProof}
    (inTime : ∃ e, c.settleTimeoutEnd = some e ∧ block ≤ e) (authentic : c.Authentic r proof)
    (newer : Supersedes proof (c.party r).balanceProof) :
    d.Step block (.update (c.party r.other).address proof)
      ⟨d.afterUpdate r proof block,
        [.sendUpdate block c.identifier (c.party r).address proof]⟩ := by
  rw [← h.settleTimeoutEnd] at inTime
  rw [← same] at newer
  have hs := Step.update r proof h.disputed' inTime (h.terms.authentic authentic) newer
  rwa [h.terms.address, h.terms.address, h.terms.identifier] at hs

section Punish

variable {request : PunishRequest} {lock : Lock} {updated : BlockNumber} {proof : BalanceProof}

theorem punishable (h : c.SameDispute d) (hc : c.Distinct) (same : d.party r = c.party r)
    (evidence : c.Punishable (c.party r) (c.party r.other) request lock block updated proof)
    (untaken : d.isLockPunished (c.party r.other).address request.lockHash = false) :
    d.Punishable (d.party r) (d.party r.other) request lock block updated proof := by
  have cheater := h.terms.address r.other
  refine ⟨evidence.identifier.trans h.terms.identifier.symm,
    evidence.openBlock.trans h.terms.openBlock.symm, ?_, ?_, ?_, ?_, ?_, evidence.hash,
    evidence.committed, ?_⟩
  · rw [evidence.beneficiary_eq hc, ← h.terms.address r]
    exact ends_address (distinct_of_addresses hc h.terms.address) r
  · rw [same]
    exact evidence.updateBlock
  · rw [same]
    exact evidence.balanceProof
  · rw [h.terms.punishWindow]
    exact evidence.inWindow
  · rw [cheater]
    exact evidence.signer
  · rw [cheater]
    exact untaken

theorem punish (h : c.SameDispute d) (hc : c.Distinct) (same : d.party r = c.party r) {s : Role}
    {signature : Bytes}
    (evidence : c.Punishable (c.party r) (c.party r.other) request lock block updated proof)
    (signed : request.signature = some signature)
    (untaken : d.isLockPunished (c.party r.other).address request.lockHash = false) :
    d.Step block (.punish (c.party s).address request lock)
      ⟨d.afterPunish (punishment (c.party r.other) request lock proof block),
        [.sendPunish block c.identifier request.openBlock request.beneficiary
          (c.party r.other).address request.lockHash request.additionalHash signature]⟩ := by
  have hs := Step.punish s r request lock updated proof signature h.disputed'
    (h.punishable hc same evidence untaken) signed
  -- What the step keeps of the ends are their addresses.
  simp only [punishment, h.terms.address, h.terms.identifier] at hs
  exact hs

end Punish

end SameDispute

/-- Neither an update nor a punishment ends the dispute. -/
theorem Step.sameDispute (hl : c.Lawful) (hs : c.Step block change t)
    (disputed : c.status.isUnderDispute = true) (open' : ∀ sender, change ≠ .settle sender) :
    c.SameDispute t.channel := by
  have closed := hl.closed_of_disputed disputed
  have close_eq := hs.closeTransaction_eq closed
  have terms := hs.sameTerms
  refine ⟨terms, ?_, disputed, ?_⟩
  · rw [settleTimeoutEnd, closeBlock, close_eq, terms.settleTimeout]
    rfl
  · refine disputed_of_closed ?_ ?_
    · rwa [close_eq]
    · rw [ne_eq, hs.settled_iff]
      rintro ⟨sender, hsettle⟩
      exact open' sender hsettle

end Channel

end PaymentChannel
