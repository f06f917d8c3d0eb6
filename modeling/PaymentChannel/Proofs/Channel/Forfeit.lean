import PaymentChannel.Proofs.Channel.Run
import PaymentChannel.Proofs.Lock.Soundness

/-!
# What a punishment forfeits

A punishment comes with a lock and an inclusion proof of its hash.  The hash is taken of the encoded
form that the lock carries along; the forfeited amount is another field of the lock.

* `Channel.forfeits_committed_iff` : without a collision, the forfeited lock is committed with the
  forfeited amount exactly if the encoded form is the one of that amount.
* `Channel.forfeits_uncommitted_amount` : nothing checks that it is.
-/

namespace PaymentChannel

namespace Channel

variable {c : Channel} {block : BlockNumber} {t : Transition} {sender : Address}
  {request : PunishRequest} {lock : Lock} {locks : List Lock} {beneficiary cheater : Participant}

theorem locksroot_of_balanceProof {p : Participant} {proof : BalanceProof}
    (h : p.balanceProof = some proof) : p.locksroot = proof.locksroot := by
  simp [Participant.locksroot, h]

/-- What an accepted punishment appends, and the inclusion proof behind it. -/
theorem punish_inv (ends : c.ends request.beneficiary = .ok (beneficiary, cheater))
    (accepted : c.transition (.punish sender request lock) block = .ok t) :
    verifyProof lock.hash request.merkleProof beneficiary.locksroot = true ∧
      lock.hash = request.lockHash ∧ ∃ proof,
        t.channel.punishments = c.punishments ++ [punishment cheater request lock proof block] := by
  simp only [transition, ite_error_eq_ok_iff] at accepted
  obtain ⟨-, -, b, ch, updated, proof, _, hp, -, rfl⟩ := punish_eq_ok_iff.mp accepted.2
  obtain ⟨rfl, rfl⟩ : b = beneficiary ∧ ch = cheater := by
    simpa using hp.ends.symm.trans ends
  refine ⟨?_, hp.hash, proof, rfl⟩
  rw [locksroot_of_balanceProof hp.balanceProof, hp.hash]
  exact hp.committed

/-- **What a punishment forfeits.**  Let the beneficiary's recorded commitment be the one over some
locks as they are created.  Unless there is a collision, the forfeited lock is one of them with the
forfeited amount exactly if the encoded form of the lock is the one of that amount. -/
theorem forfeits_committed_iff (built : ∀ l ∈ locks, ∃ amount expiration secretHash,
      l = Lock.create amount expiration secretHash)
    (ends : c.ends request.beneficiary = .ok (beneficiary, cheater))
    (commits : beneficiary.locksroot = (LockTree.ofLocks locks).root)
    (accepted : c.transition (.punish sender request lock) block = .ok t) :
    Collides (LockTree.inputs locks lock request.merkleProof) ∨
      ∃ p, t.channel.punishments = c.punishments ++ [p] ∧
        ((∃ l ∈ locks, p.lockHash = l.hash ∧ p.amount = l.amount) ↔
          ∃ expiration secretHash,
            lock.encoded = Lock.encodeFields lock.amount expiration secretHash) := by
  obtain ⟨verified, hash, proof, appended⟩ := punish_inv ends accepted
  rw [commits] at verified
  have lengths : ∀ l ∈ locks, l.encoded.length = 96 := by
    intro l hl
    obtain ⟨amount, expiration, secretHash, rfl⟩ := built l hl
    exact Lock.length_encodeFields ..
  by_cases collides : Collides (LockTree.inputs locks lock request.merkleProof)
  · exact Or.inl collides
  refine Or.inr ⟨_, appended, ?_, ?_⟩
  · rintro ⟨l, hl, hhash, hamount⟩
    have same : keccak256 lock.encoded = keccak256 l.encoded := hash.trans hhash
    have hmem : l.encoded ∈ LockTree.inputs locks lock request.merkleProof :=
      LockTree.encoded_mem_inputs hl
    rcases eq_or_collides List.mem_cons_self hmem same with e | collision
    · obtain ⟨amount, expiration, secretHash, rfl⟩ := built l hl
      refine ⟨expiration, secretHash, ?_⟩
      rw [e, show lock.amount = amount from hamount]
      rfl
    · exact absurd collision collides
  · rintro ⟨expiration, secretHash, he⟩
    rcases LockTree.encoded_cases lengths verified with ⟨l, hl, e⟩ | inner | collision
    · obtain ⟨amount, expiration', secretHash', rfl⟩ := built l hl
      exact ⟨_, hl, hash.symm.trans (congrArg keccak256 e),
        (Lock.encodeFields_inj (he.symm.trans e)).1⟩
    · have := LockTree.length_of_mem_hashed inner
      rw [he, Lock.length_encodeFields] at this
      omega
    · exact absurd collision collides

/-- The sample dispute forfeits the small lock with its committed amount. -/
theorem forfeits_committed_sample : ∃ t,
    Sample.updated.transition (.punish Sample.second Sample.request Sample.smallLock) 16 = .ok t ∧
    Sample.updated.ends Sample.second =
      .ok (Sample.updated.party .partner, Sample.updated.party .ours) ∧
    (Sample.updated.party .partner).locksroot = (LockTree.ofLocks Sample.locks).root ∧
    ∃ p, t.channel.punishments = Sample.updated.punishments ++ [p] ∧
      ∃ l ∈ Sample.locks, p.lockHash = l.hash ∧ p.amount = l.amount := by
  obtain ⟨events, accepted⟩ := Sample.transition_punish Sample.hash_smallLock
  have commits : (Sample.updated.party .partner).locksroot = (LockTree.ofLocks Sample.locks).root :=
    Sample.root_locks.symm
  obtain ⟨p, appended, committed⟩ := (forfeits_committed_iff Sample.locks_built rfl commits
    accepted).resolve_left (Sample.not_collides _)
  exact ⟨_, accepted, rfl, commits, p, appended, committed.mpr ⟨100, ⟨3⟩, rfl⟩⟩

/-- **A punishment can forfeit an amount that is not committed.**  Sent along with the encoded small
lock of the sample dispute, any other amount is forfeited. -/
theorem forfeits_uncommitted_amount : ¬∀ (c : Channel) (block : BlockNumber) (t : Transition)
    (sender : Address) (request : PunishRequest) (lock : Lock) (locks : List Lock)
    (beneficiary cheater : Participant),
    (∀ l ∈ locks, ∃ amount expiration secretHash, l = Lock.create amount expiration secretHash) →
    c.ends request.beneficiary = .ok (beneficiary, cheater) →
    beneficiary.locksroot = (LockTree.ofLocks locks).root →
    c.transition (.punish sender request lock) block = .ok t →
    Collides (LockTree.inputs locks lock request.merkleProof) ∨
      ∃ p, t.channel.punishments = c.punishments ++ [p] ∧
        ∃ l ∈ locks, p.lockHash = l.hash ∧ p.amount = l.amount := by
  intro h
  have forged : Lock.hash { Sample.smallLock with amount := 500 } = Sample.smallHash :=
    Sample.hash_smallLock
  obtain ⟨events, accepted⟩ := Sample.transition_punish forged
  obtain ⟨p, appended, l, hl, -, hamount⟩ := (h Sample.updated 16 _ _ Sample.request _ Sample.locks
    (Sample.updated.party .partner) (Sample.updated.party .ours) Sample.locks_built rfl
    Sample.root_locks.symm accepted).resolve_left (Sample.not_collides 500)
  obtain rfl := List.singleton_inj.mp (List.append_cancel_left appended)
  rcases List.mem_cons.mp hl with rfl | hl
  · exact absurd hamount (by decide)
  · rw [List.mem_singleton.mp hl] at hamount
    exact absurd hamount (by decide)

end Channel

end PaymentChannel
