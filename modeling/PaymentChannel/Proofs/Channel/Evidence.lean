import PaymentChannel.Proofs.Channel.Status

/-!
# The evidence that a run records

An end of the channel holds the latest balance proof that its participant signed, as the opposite
end submitted it.

* `Channel.Step.balanceProof_cases` : a step leaves a recorded proof as it is or replaces it by a
  newer one.
* `Channel.retained_run` : so does every run.
* `Channel.updated_of_run` : a proof with the block of an update was recorded by an update then.
* `Channel.Step.recorded` : the end that a submitted proof goes to.
* `Channel.evidence_of_run` : the recorded evidence is authentic, grows monotonically and changes
  only by what the opposite end submits.
-/

namespace PaymentChannel

/-- The balance proof that a step submits. -/
def StateChange.evidence? : StateChange → Option BalanceProof
  | .close _ proof => proof
  | .update _ proof => some proof
  | .punish .. => none
  | .settle _ => none

namespace Channel

variable {c : Channel} {block : BlockNumber} {change : StateChange} {t : Transition} {r : Role}
  {p : BalanceProof}

/-- A step leaves a recorded proof as it is or replaces it by a newer one. -/
theorem Step.balanceProof_cases (h : c.Lawful) (hs : c.Step block change t)
    (hp : (c.party r).balanceProof = some p) :
    t.channel.party r = c.party r ∨ ∃ q, (t.channel.party r).balanceProof = some q ∧
      p.nonce < q.nonce ∧ p.transferredAmount ≤ q.transferredAmount := by
  rcases hs.party_cases r with e | ⟨_, -, ho, -, -⟩ | ⟨q, -, -, hn, e⟩
  · exact Or.inl e
  · -- A close finds no proof: the channel was not closed before.
    rw [(h.party_of_opened ho r).1] at hp
    cases hp
  · exact Or.inr ⟨q, by rw [e], hn p hp⟩

theorem retained_run (h : c.Lawful) (hp : (c.party r).balanceProof = some p)
    (attempts : List Attempt) :
    (c.run attempts).party r = c.party r ∨
      ∃ q, ((c.run attempts).party r).balanceProof = some q ∧
        p.nonce < q.nonce ∧ p.transferredAmount ≤ q.transferredAmount := by
  refine h.run_induction (P := fun d => d.party r = c.party r ∨ ∃ q,
    (d.party r).balanceProof = some q ∧ p.nonce < q.nonce ∧
      p.transferredAmount ≤ q.transferredAmount) (Or.inl rfl) ?_ attempts
  -- Either nothing was replaced so far, or the latest replacement is newer than the first proof.
  rintro d block change t hd (e | ⟨q, hq, hn, ha⟩) hs
  · rcases hs.balanceProof_cases hd (by rwa [e]) with e' | newer
    · exact Or.inl (e'.trans e)
    · exact Or.inr newer
  · rcases hs.balanceProof_cases hd hq with e' | ⟨q', hq', hn', ha'⟩
    · exact Or.inr ⟨q, by rwa [e'], hn, ha⟩
    · exact Or.inr ⟨q', hq', UInt64.lt_trans hn hn', BitVec.le_trans ha ha'⟩

theorem updated_of_run (h : c.Lawful) (init : (c.party r).updateBlock = none)
    (attempts : List Attempt) {u : BlockNumber} :
    ((c.run attempts).party r).updateBlock = some u →
      ((c.run attempts).party r).balanceProof = some p →
      ⟨.update (c.party r.other).address p, u⟩ ∈ c.history attempts := by
  refine h.attempts_induction (P := fun attempts =>
    ((c.run attempts).party r).updateBlock = some u →
      ((c.run attempts).party r).balanceProof = some p →
      ⟨.update (c.party r.other).address p, u⟩ ∈ c.history attempts) ?_ ?_ ?_ attempts
  · intro hu
    rw [run_nil, init] at hu
    cases hu
  · intro past a ih e events
    rw [e, events]
    exact ih
  · intro past a t ih hs e events
    obtain ⟨hl, terms⟩ := lawful_run h past
    rw [e, events]
    rcases hs.party_cases r with e' | ⟨_, -, ho, -, e'⟩ | ⟨q, hchange, -, -, e'⟩ <;> rw [e']
    · exact fun hu hp => List.mem_append_left _ (ih hu hp)
    · intro hu
      rw [(hl.party_of_opened ho r).2] at hu
      cases hu
    · intro hu hp
      cases hu
      cases hp
      have ha : a = ⟨.update (c.party r.other).address p, a.block⟩ := by
        rw [← terms.address r.other, ← hchange]
      rw [← ha]
      exact List.mem_append_right _ (List.mem_singleton_self a)

theorem Step.recorded (h : c.Distinct) (hs : c.Step block change t)
    (hsender : change.sender = (c.party r.other).address) (hp : change.evidence? = some p) :
    (t.channel.party r).balanceProof = some p ∧ t.channel.party r.other = c.party r.other := by
  cases hs with
  | close signer proof =>
    obtain rfl : signer = r := h.role_eq_of_other hsender
    exact ⟨by simpa [StateChange.evidence?] using hp, by simp⟩
  | update signer proof =>
    obtain rfl : signer = r := h.role_eq_of_other hsender
    exact ⟨by simpa [StateChange.evidence?] using hp, by simp⟩
  | punish => cases hp
  | settle => cases hp

/-- As long as the proof of an update is kept, so is the block of the update. -/
theorem updateBlock_of_kept (h : c.Lawful) {attempts : List Attempt} {u : BlockNumber}
    (updated : ⟨.update (c.party r.other).address p, u⟩ ∈ c.history attempts)
    (kept : ((c.run attempts).party r).balanceProof = some p) :
    (c.run attempts).closeTransaction ≠ none ∧
      ((c.run attempts).party r).updateBlock = some u := by
  obtain ⟨past, future, t, rfl, hl, hs, e⟩ := h.history_inv updated
  have lawful := hl.step hs
  have terms := (lawful_run h past).2
  have inv := hs
  rw [← terms.address r.other] at inv
  obtain ⟨hd, -, e'⟩ := inv.update_inv hl.distinct
  have closed := hl.closed_of_disputed hd
  rw [e] at kept ⊢
  refine ⟨?_, ?_⟩
  · rwa [closeTransaction_run lawful, hs.closeTransaction_eq closed]
    rwa [hs.closeTransaction_eq closed]
  · rw [e'] at kept lawful ⊢
    have recorded : (((c.run past).afterUpdate r p u).party r).balanceProof = some p := by simp
    rcases retained_run lawful recorded future with same | ⟨q, hq, hn, -⟩
    · rw [same, party_afterUpdate]
    · -- A newer proof would not be the same.
      obtain rfl := Option.some.inj (hq.symm.trans kept)
      exact absurd hn (UInt64.lt_irrefl _)

/-- **The recorded evidence of a run.**  For each end of every reached channel: a recorded proof is
never removed; an update of it is newer and takes nothing back; nothing but updates and the one
close of the opposite end changes it; it carries the identifier and the open block of the channel
and verifies for the end's address; and recording it leaves the opposite end as it was. -/
theorem evidence_of_run (h : c.Fresh) (past : List Attempt) (r : Role) :
    (∀ future p, ((c.run past).party r).balanceProof = some p →
      ∃ q, ((c.run (past ++ future)).party r).balanceProof = some q) ∧
    (∀ block p q t, ((c.run past).party r).balanceProof = some p →
      (c.run past).transition (.update (c.party r.other).address q) block = .ok t →
      (t.channel.party r).balanceProof = some q ∧ p.nonce < q.nonce ∧
        p.transferredAmount ≤ q.transferredAmount) ∧
    (∀ change block t, (c.run past).transition change block = .ok t →
      (t.channel.party r).balanceProof = ((c.run past).party r).balanceProof ∨
      (∃ proof, change = .update (c.party r.other).address proof) ∨
      ∃ proof, change = .close (c.party r.other).address proof ∧
        ∀ a ∈ c.history past, ∀ sender proof', a.change ≠ .close sender proof') ∧
    (∀ p, ((c.run past).party r).balanceProof = some p →
      p.identifier = c.identifier ∧ p.openBlock = c.openBlock ∧
        p.verify (c.party r).address = .ok ()) ∧
    ∀ change block p t, (c.run past).transition change block = .ok t →
      change.sender = (c.party r.other).address → change.evidence? = some p →
      (t.channel.party r).balanceProof = some p ∧
        t.channel.party r.other = (c.run past).party r.other := by
  have hl := lawful_of_run h past
  have terms := sameTerms_of_run h past
  have other := terms.address r.other
  refine ⟨?_, ?_, ?_, ?_, ?_⟩
  · intro future p hp
    rw [run_append]
    rcases retained_run hl hp future with e | ⟨q, hq, -, -⟩
    · exact ⟨p, by rw [e, hp]⟩
    · exact ⟨q, hq⟩
  · intro block p q t hp ht
    rw [← other] at ht
    have hs := Step.of_transition hl.distinct ht
    exact ⟨(hs.recorded hl.distinct rfl rfl).1, (hs.update_inv hl.distinct).2.1 p hp⟩
  · intro change block t ht
    rw [← other]
    rcases (Step.of_transition hl.distinct ht).party_cases r with
      e | ⟨proof, he, ho, -, -⟩ | ⟨proof, he, -, -, -⟩
    · exact Or.inl (by rw [e])
    · exact Or.inr (Or.inr ⟨proof, he, fun a ha =>
        no_close_of_unclosed (lawful_of_fresh h) (closeTransaction_of_opened ho) ha⟩)
    · exact Or.inr (Or.inl ⟨proof, he⟩)
  · intro p hp
    have ha := hl.authentic r p hp
    exact ⟨ha.identifier.trans terms.identifier, ha.openBlock.trans terms.openBlock, by
      rw [← terms.address r]
      exact ha.verify⟩
  · intro change block p t ht hsender hp
    rw [← other] at hsender
    exact (Step.of_transition hl.distinct ht).recorded hl.distinct hsender hp

/-- The proof recorded in the sample dispute stays and verifies for the second end. -/
theorem evidence_of_sample : Sample.channel.Fresh ∧
    (∀ future, ∃ q, ((Sample.channel.run ([Sample.close, Sample.update] ++ future)).party
      .partner).balanceProof = some q) ∧
    Sample.proof.verify Sample.second = .ok () := by
  have recorded : ((Sample.channel.run [Sample.close, Sample.update]).party
      .partner).balanceProof = some Sample.proof := by
    rw [Sample.run_updated]
    rfl
  obtain ⟨kept, -, -, authentic, -⟩ :=
    evidence_of_run Sample.fresh_channel [Sample.close, Sample.update] .partner
  exact ⟨Sample.fresh_channel, fun future => kept future _ recorded, (authentic _ recorded).2.2⟩

end Channel

end PaymentChannel
