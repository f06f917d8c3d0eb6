import PaymentChannel.Proofs.Channel.Evidence

/-!
# The punishments that a run records

A record takes a lock from the end that declared it obsolete but still committed to it.

* `Channel.Step.punishments_cases` : a step leaves the records as they are or appends one.
* `Channel.isLockPunished_eq_false_iff` : a lock is unpunished if no record has its key.
* `Channel.Recorded`, `Channel.RecordedIn` : the evidence that a record rested on when it was
  appended, and that some step of a run appended it so.
* `Channel.punishments_of_run` : records are appended only, at most one for each lock of a cheater,
  and each of them rests on evidence.
-/

namespace PaymentChannel

/-- What may be punished once: a lock of a cheater. -/
def Punishment.key (p : Punishment) : Address × Hash := (p.cheater, p.lockHash)

namespace Channel

variable {c : Channel} {block : BlockNumber} {change : StateChange} {t : Transition}

/-! ## The records after a step -/

theorem Step.punishments_cases (hs : c.Step block change t) :
    t.channel.punishments = c.punishments ∨
      ∃ sender role request lock updated proof, change = .punish sender request lock ∧
        c.Punishable (c.party role) (c.party role.other) request lock block updated proof ∧
        t.channel.punishments =
          c.punishments ++ [punishment (c.party role.other) request lock proof block] := by
  cases hs with
  | close => exact Or.inl (punishments_setParty ..)
  | update => exact Or.inl (punishments_setParty ..)
  | punish sender role request lock updated proof _ _ hp =>
    exact Or.inr ⟨_, role, request, lock, updated, proof, rfl, hp, rfl⟩
  | settle => exact Or.inl rfl

theorem Step.punishments_prefix (hs : c.Step block change t) :
    c.punishments <+: t.channel.punishments := by
  rcases hs.punishments_cases with e | ⟨_, _, _, _, _, _, -, -, e⟩
  · exact ⟨[], by rw [e, List.append_nil]⟩
  · rw [e]
    exact List.prefix_append ..

theorem punishments_prefix_run (h : c.Lawful) (attempts : List Attempt) :
    c.punishments <+: (c.run attempts).punishments :=
  h.run_induction (P := fun d => c.punishments <+: d.punishments) (List.prefix_refl _)
    (fun _ _ _ _ _ hd hs => hd.trans hs.punishments_prefix) attempts

/-! ## At most one record for each lock of a cheater -/

theorem isLockPunished_eq_false_iff {cheater : Address} {lockHash : Hash} :
    c.isLockPunished cheater lockHash = false ↔
      (cheater, lockHash) ∉ c.punishments.map Punishment.key := by
  simp [isLockPunished, Punishment.key]

theorem Step.nodup_keys (hs : c.Step block change t)
    (h : (c.punishments.map Punishment.key).Nodup) :
    (t.channel.punishments.map Punishment.key).Nodup := by
  rcases hs.punishments_cases with e | ⟨_, role, request, lock, _, proof, -, hp, e⟩ <;> rw [e]
  · exact h
  · have unseen : (punishment (c.party role.other) request lock proof block).key ∉
        c.punishments.map Punishment.key :=
      isLockPunished_eq_false_iff.mp hp.unpunished
    rw [List.map_append, List.nodup_append]
    refine ⟨h, by simp, ?_⟩
    rintro key hkey _ hlast rfl
    rw [List.map_singleton, List.mem_singleton] at hlast
    exact unseen (hlast ▸ hkey)

theorem nodup_keys_run (h : c.Lawful) (init : c.punishments = []) (attempts : List Attempt) :
    ((c.run attempts).punishments.map Punishment.key).Nodup := by
  refine h.run_induction (P := fun d => (d.punishments.map Punishment.key).Nodup) ?_
    (fun _ _ _ _ _ hd hs => hs.nodup_keys hd) attempts
  rw [init]
  exact List.nodup_nil

/-! ## The evidence behind a record -/

/-- The evidence that a record rested on when it was appended: after the attempts so far, the
beneficiary's end held a proof that an update had recorded at most the punish window before, the
lock was proven against it, and the cheater had signed that the lock is obsolete. -/
structure Recorded (c : Channel) (past : List Attempt) (a : Attempt) (p : Punishment) (role : Role)
    (request : PunishRequest) (updated : BlockNumber) (proof : BalanceProof) : Prop where
  appended : (c.run (past ++ [a])).punishments = (c.run past).punishments ++ [p]
  beneficiary : p.beneficiary = (c.party role).address
  cheater : p.cheater = (c.party role.other).address
  balanceProof : ((c.run past).party role).balanceProof = some proof
  updateBlock : ((c.run past).party role).updateBlock = some updated
  update : ⟨.update (c.party role.other).address proof, updated⟩ ∈ c.history past
  inWindow : p.block.toNat ≤ updated.toNat + c.punishWindow.toNat
  locksroot : p.locksroot = proof.locksroot
  lockHash : p.lockHash = request.lockHash
  committed : verifyProof p.lockHash request.merkleProof p.locksroot = true
  signer : request.signer = .ok p.cheater

theorem recorded_of_step (h : c.Fresh) {past : List Attempt} {a : Attempt} {role : Role}
    {request : PunishRequest} {lock : Lock} {updated : BlockNumber} {proof : BalanceProof}
    (hp : (c.run past).Punishable ((c.run past).party role) ((c.run past).party role.other) request
      lock a.block updated proof)
    (appended : (c.run (past ++ [a])).punishments = (c.run past).punishments ++
      [punishment ((c.run past).party role.other) request lock proof a.block]) :
    c.Recorded past a (punishment ((c.run past).party role.other) request lock proof a.block) role
      request updated proof := by
  have hl := lawful_of_run h past
  have terms := sameTerms_of_run h past
  refine ⟨appended, ?_, ?_, hp.balanceProof, hp.updateBlock, ?_, ?_, rfl, rfl, hp.committed,
    hp.signer⟩
  · exact (hp.beneficiary_eq hl.distinct).trans (terms.address role)
  · exact terms.address role.other
  · have fresh := (lawful_of_fresh h).party_of_opened (status_of_fresh h) role
    exact updated_of_run (lawful_of_fresh h) fresh.2 past hp.updateBlock hp.balanceProof
  · rw [← terms.punishWindow]
    exact Quantity.le_saturatingAdd_iff.mp hp.inWindow

/-- A punishment among the attempts appended the record on evidence. -/
def RecordedIn (c : Channel) (attempts : List Attempt) (p : Punishment) : Prop :=
  ∃ past future sender role request lock updated proof,
    attempts = past ++ ⟨.punish sender request lock, p.block⟩ :: future ∧
      c.Recorded past ⟨.punish sender request lock, p.block⟩ p role request updated proof

theorem RecordedIn.append {attempts : List Attempt} {p : Punishment} (h : c.RecordedIn attempts p)
    (rest : List Attempt) : c.RecordedIn (attempts ++ rest) p := by
  obtain ⟨past, future, sender, role, request, lock, updated, proof, rfl, h⟩ := h
  exact ⟨past, future ++ rest, sender, role, request, lock, updated, proof, by simp, h⟩

theorem recorded_of_run (h : c.Fresh) (attempts : List Attempt) :
    ∀ p ∈ (c.run attempts).punishments, c.RecordedIn attempts p := by
  refine (lawful_of_fresh h).attempts_induction
    (P := fun attempts => ∀ p ∈ (c.run attempts).punishments, c.RecordedIn attempts p) ?_ ?_ ?_
    attempts
  · intro p hp
    rw [run_nil, (lawful_of_fresh h).punishments_of_opened (status_of_fresh h)] at hp
    cases hp
  · intro past a ih e _ p hp
    rw [e] at hp
    exact (ih p hp).append [a]
  · intro past a t ih hs e _ p hp
    rw [e] at hp
    rcases hs.punishments_cases with
      e' | ⟨sender, role, request, lock, updated, proof, hchange, hpun, e'⟩ <;> rw [e'] at hp
    · exact (ih p hp).append [a]
    · rcases List.mem_append.mp hp with hold | hnew
      · exact (ih p hold).append [a]
      · -- The record is the one of this step, whose evidence the rules have checked.
        obtain rfl := List.mem_singleton.mp hnew
        have hrec := recorded_of_step h (a := a) hpun (by rw [e, e'])
        have ha : a = ⟨.punish sender request lock, a.block⟩ := by rw [← hchange]
        exact ⟨past, [], sender, role, request, lock, updated, proof, congrArg (past ++ [·]) ha,
          ha ▸ hrec⟩

/-- **The records of a run.**  A run only appends records, no two of them take the same lock from
the same cheater, and each takes it from one end for the other, on evidence. -/
theorem punishments_of_run (h : c.Fresh) (attempts : List Attempt) :
    (∀ future, (c.run attempts).punishments <+: (c.run (attempts ++ future)).punishments) ∧
    ((c.run attempts).punishments.map fun p => (p.cheater, p.lockHash)).Nodup ∧
    ∀ p ∈ (c.run attempts).punishments, p.beneficiary ≠ p.cheater ∧ c.RecordedIn attempts p := by
  have hl := lawful_of_fresh h
  refine ⟨?_, ?_, ?_⟩
  · intro future
    rw [run_append]
    exact punishments_prefix_run (lawful_of_run h attempts) future
  · exact nodup_keys_run hl (hl.punishments_of_opened (status_of_fresh h)) attempts
  · intro p hp
    have hin := recorded_of_run h attempts p hp
    have ⟨_, _, _, role, _, _, _, _, _, hrec⟩ := hin
    refine ⟨?_, hin⟩
    rw [hrec.beneficiary, hrec.cheater]
    exact hl.distinct.ne role

/-- The punishment of the sample dispute is recorded on evidence and stays the first record. -/
theorem punishments_of_sample : Sample.channel.Fresh ∧
    Sample.channel.RecordedIn [Sample.close, Sample.update, Sample.punish] Sample.record ∧
    ∀ future, [Sample.record] <+: (Sample.channel.run
      ([Sample.close, Sample.update, Sample.punish] ++ future)).punishments := by
  obtain ⟨kept, -, backed⟩ := punishments_of_run Sample.fresh_channel
    [Sample.close, Sample.update, Sample.punish]
  rw [Sample.run_punished] at kept backed
  exact ⟨Sample.fresh_channel, (backed _ (List.mem_singleton_self _)).2, kept⟩

end Channel

end PaymentChannel
