import PaymentChannel.Proofs.Channel.Alike
import PaymentChannel.Proofs.Channel.Punishment

/-!
# Independent steps commute

During a dispute an update writes the end of the participant that signed the proof, and a punishment
appends a record.  An update reads only the end that it writes, and a punishment reads the end of
its beneficiary and whether the lock was taken before.  Two steps of which none reads what the other
one writes may change places.

* `Channel.Independent` : updates by different senders, punishments of different locks, an update
  and a punishment for its sender.
* `Channel.Step.swap` : independent steps are admitted in the other order and leave channels that
  are alike.
* `Channel.latestUpdate`, `Channel.updateTransaction_run` : what a run keeps as the last update.
* `Channel.independent_commute` : the statement for every state that a run reaches.
-/

namespace PaymentChannel

namespace Channel

variable {c d : Channel} {block block' : BlockNumber} {change change' : StateChange}
  {t u : Transition}

/-! ## Independent steps -/

/-- Steps of a dispute of which none reads what the other one writes. -/
inductive Independent (c : Channel) : StateChange → StateChange → Prop
  | updates {x y : Address} {p q : BalanceProof} (senders : x ≠ y) :
      Independent c (.update x p) (.update y q)
  /-- The locks differ or are taken from different cheaters. -/
  | punishments {x y : Address} {p q : PunishRequest} {k l : Lock}
      (locks : (c.counterparty p.beneficiary, p.lockHash) ≠
        (c.counterparty q.beneficiary, q.lockHash)) :
      Independent c (.punish x p k) (.punish y q l)
  /-- The update records a proof of the counterparty of `x`, and the punishment is for `x`. -/
  | updatePunish {x y : Address} {p : BalanceProof} {q : PunishRequest} {l : Lock}
      (beneficiary : q.beneficiary = x) : Independent c (.update x p) (.punish y q l)
  | punishUpdate {x y : Address} {p : BalanceProof} {q : PunishRequest} {l : Lock}
      (beneficiary : q.beneficiary = x) : Independent c (.punish y q l) (.update x p)

namespace Independent

theorem symm (h : c.Independent change change') : c.Independent change' change := by
  cases h with
  | updates senders => exact .updates senders.symm
  | punishments locks => exact .punishments locks.symm
  | updatePunish beneficiary => exact .punishUpdate beneficiary
  | punishUpdate beneficiary => exact .updatePunish beneficiary

theorem sameDispute (h : c.Independent change change') (hl : c.Lawful)
    (hs : c.Step block change t) : c.SameDispute t.channel := by
  have disputed : c.status.isUnderDispute = true := by
    cases h <;> cases hs <;> assumption
  refine hs.sameDispute hl disputed ?_
  rintro sender rfl
  cases h

end Independent

/-! ## The order of two steps -/

section After

variable (c : Channel) (p q : BalanceProof) (block block' : BlockNumber) (k l : Punishment)

theorem party_afterUpdate_of_ne {r s : Role} (h : s ≠ r) :
    (c.afterUpdate r p block).party s = c.party s := by
  rcases r.eq_or_eq_other s with rfl | rfl
  · exact absurd rfl h
  · exact party_afterUpdate_other ..

theorem isLockPunished_afterUpdate (r : Role) (cheater : Address) (lockHash : Hash) :
    (c.afterUpdate r p block).isLockPunished cheater lockHash =
      c.isLockPunished cheater lockHash := by
  cases r <;> rfl

theorem isLockPunished_afterPunish_eq_false_iff {cheater : Address} {lockHash : Hash} :
    (c.afterPunish k).isLockPunished cheater lockHash = false ↔
      c.isLockPunished cheater lockHash = false ∧ (cheater, lockHash) ≠ k.key := by
  rw [isLockPunished_eq_false_iff, isLockPunished_eq_false_iff, afterPunish, List.map_append,
    List.map_singleton, List.mem_append, List.mem_singleton, not_or]

theorem alike_afterUpdate_comm {r s : Role} (h : s ≠ r) :
    ((c.afterUpdate r p block).afterUpdate s q block').Alike
      ((c.afterUpdate s q block').afterUpdate r p block) := by
  cases r <;> cases s <;> first | exact absurd rfl h | exact ⟨.refl _, rfl, rfl⟩

theorem alike_afterPunish_comm :
    ((c.afterPunish k).afterPunish l).Alike ((c.afterPunish l).afterPunish k) := by
  refine ⟨?_, rfl, rfl⟩
  rw [afterPunish, afterPunish, afterPunish, afterPunish, List.append_assoc, List.append_assoc]
  exact List.perm_append_comm.append_left _

theorem alike_afterUpdate_afterPunish (r : Role) :
    ((c.afterUpdate r p block).afterPunish k).Alike
      ((c.afterPunish k).afterUpdate r p block) := by
  cases r <;> exact ⟨.refl _, rfl, rfl⟩

end After

/-- The second step is admitted before the first one, with the same calls, and what they leave is
alike. -/
def Swaps (c : Channel) (change change' : StateChange) (block block' : BlockNumber)
    (t u : Transition) : Prop :=
  ∃ t' u', c.Step block' change' t' ∧ t'.channel.Step block change u' ∧
    t'.events = u.events ∧ u'.events = t.events ∧ u.channel.Alike u'.channel

section Swap

variable {x y : Address} {p q : BalanceProof} {request request' : PunishRequest} {lock lock' : Lock}

theorem Step.swap_updates (hl : c.Lawful) (senders : x ≠ y) (hs : c.Step block (.update x p) t)
    (hu : t.channel.Step block' (.update y q) u) :
    c.Swaps (.update x p) (.update y q) block block' t u := by
  have hi : c.Independent (.update x p) (.update y q) := .updates senders
  have same := hi.sameDispute hl hs
  cases hs with
  | update r _ _ inTime authentic newer =>
    cases hu with
    | update s _ _ inTime' authentic' newer' =>
      have ne : s ≠ r := by
        rintro rfl
        rw [party_afterUpdate_other] at senders
        exact senders rfl
      have keeps := party_afterUpdate_of_ne c p block ne
      have keeps' := party_afterUpdate_of_ne c q block' ne.symm
      have h₁ := same.symm.update keeps.symm inTime' authentic' newer'
      have h₂ := (hi.symm.sameDispute hl h₁).update keeps' inTime authentic newer
      exact ⟨_, _, h₁, h₂, rfl, rfl, alike_afterUpdate_comm c p q block block' ne⟩

theorem Step.swap_punishments (hl : c.Lawful)
    (hi : c.Independent (.punish x request lock) (.punish y request' lock'))
    (hs : c.Step block (.punish x request lock) t)
    (hu : t.channel.Step block' (.punish y request' lock') u) :
    c.Swaps (.punish x request lock) (.punish y request' lock') block block' t u := by
  have hl' := hl.step hs
  have same := hi.sameDispute hl hs
  cases hs with
  | punish x r _ _ _ _ _ _ evidence signed =>
    cases hu with
    | punish y s _ _ _ proof _ _ evidence' signed' =>
      -- That the first step did not take the lock of the second one says that their keys differ.
      obtain ⟨untaken', other⟩ :=
        (isLockPunished_afterPunish_eq_false_iff ..).mp evidence'.unpunished
      have untaken := (isLockPunished_afterPunish_eq_false_iff c
        (punishment (c.party s.other) request' lock' proof block')).mpr
          ⟨evidence.unpunished, other.symm⟩
      have h₁ := same.symm.punish hl'.distinct (party_afterPunish ..).symm (s := y) evidence'
        signed' untaken'
      have h₂ := (hi.symm.sameDispute hl h₁).punish hl.distinct (party_afterPunish ..) (s := x)
        evidence signed untaken
      exact ⟨_, _, h₁, h₂, rfl, rfl, alike_afterPunish_comm ..⟩

theorem Step.swap_updatePunish (hl : c.Lawful) (beneficiary : request.beneficiary = x)
    (hs : c.Step block (.update x p) t)
    (hu : t.channel.Step block' (.punish y request lock) u) :
    c.Swaps (.update x p) (.punish y request lock) block block' t u := by
  have hi : c.Independent (.update x p) (.punish y request lock) := .updatePunish beneficiary
  have hl' := hl.step hs
  have same := hi.sameDispute hl hs
  cases hs with
  | update r _ _ inTime authentic newer =>
    cases hu with
    | punish y s _ _ _ _ _ _ evidence signed =>
      have ne : s ≠ r := by
        rintro rfl
        rw [evidence.beneficiary_eq hl'.distinct, same.terms.address] at beneficiary
        exact hl.distinct.ne s beneficiary
      have keeps := party_afterUpdate_of_ne c p block ne
      have untaken := evidence.unpunished
      rw [isLockPunished_afterUpdate] at untaken
      have h₁ := same.symm.punish hl'.distinct keeps.symm (s := y) evidence signed untaken
      have h₂ := (hi.symm.sameDispute hl h₁).update (party_afterPunish ..) inTime authentic newer
      exact ⟨_, _, h₁, h₂, rfl, rfl, alike_afterUpdate_afterPunish ..⟩

theorem Step.swap_punishUpdate (hl : c.Lawful) (beneficiary : request.beneficiary = x)
    (hs : c.Step block (.punish y request lock) t)
    (hu : t.channel.Step block' (.update x p) u) :
    c.Swaps (.punish y request lock) (.update x p) block block' t u := by
  have hi : c.Independent (.punish y request lock) (.update x p) := .punishUpdate beneficiary
  have same := hi.sameDispute hl hs
  cases hs with
  | punish y r _ _ _ _ _ _ evidence signed =>
    cases hu with
    | update s _ _ inTime authentic newer =>
      have ne : r ≠ s := by
        rintro rfl
        rw [evidence.beneficiary_eq hl.distinct, party_afterPunish] at beneficiary
        exact hl.distinct.ne r beneficiary
      have keeps := party_afterUpdate_of_ne c p block' ne
      have untaken := evidence.unpunished
      rw [← isLockPunished_afterUpdate c p block' s] at untaken
      have h₁ := same.symm.update (party_afterPunish ..).symm inTime authentic newer
      have h₂ := (hi.symm.sameDispute hl h₁).punish hl.distinct keeps (s := y) evidence signed
        untaken
      exact ⟨_, _, h₁, h₂, rfl, rfl, (alike_afterUpdate_afterPunish ..).symm⟩

/-- **Independent steps may change places.** -/
theorem Step.swap (hl : c.Lawful) (hi : c.Independent change change')
    (hs : c.Step block change t) (hu : t.channel.Step block' change' u) :
    c.Swaps change change' block block' t u := by
  cases hi with
  | updates senders => exact hs.swap_updates hl senders hu
  | punishments locks => exact hs.swap_punishments hl (.punishments locks) hu
  | updatePunish beneficiary => exact hs.swap_updatePunish hl beneficiary hu
  | punishUpdate beneficiary => exact hs.swap_punishUpdate hl beneficiary hu

end Swap

/-! ## The last update -/

/-- What a channel keeps as the last update, after the admitted attempts. -/
def latestUpdate (before : Option TransactionStatus) : List Attempt → Option TransactionStatus
  | [] => before
  | ⟨.update .., block⟩ :: rest => latestUpdate (some (.succeeded block)) rest
  | _ :: rest => latestUpdate before rest

theorem Step.updateTransaction_eq {a : Attempt} (hs : c.Step a.block a.change t) :
    t.channel.updateTransaction = latestUpdate c.updateTransaction [a] := by
  obtain ⟨change, block⟩ := a
  cases hs with
  | close => exact updateTransaction_setParty ..
  | update | punish | settle => rfl

theorem latestUpdate_append (before : Option TransactionStatus) (past future : List Attempt) :
    latestUpdate before (past ++ future) = latestUpdate (latestUpdate before past) future := by
  fun_induction latestUpdate before past with
  | case1 => rfl
  | case2 before _ _ block rest ih => exact ih
  | case3 before a rest other ih =>
    rw [List.cons_append, latestUpdate]
    · exact ih
    · exact other

theorem updateTransaction_run (h : c.Lawful) (attempts : List Attempt) :
    (c.run attempts).updateTransaction =
      latestUpdate c.updateTransaction (c.history attempts) := by
  refine h.attempts_induction (P := fun attempts => (c.run attempts).updateTransaction =
    latestUpdate c.updateTransaction (c.history attempts)) rfl ?_ ?_ attempts
  · intro past a ih e events
    rw [e, events]
    exact ih
  · intro past a t ih hs e events
    rw [e, events, latestUpdate_append, ← ih]
    exact hs.updateTransaction_eq

/-! ## The order of two steps in a run -/

/-- **Independent steps of a dispute commute.**  Where one is admitted after the other, they are
admitted in the other order, too, with the same calls.  What they leave agrees in all but the order
of the records and the last update, which is the update that came last.  Whatever is attempted
afterwards, both channels are settled by the same sender at the same block with the same outcome. -/
theorem independent_commute (h : c.Fresh) (past : List Attempt) {a b : Attempt}
    (hi : (c.run past).Independent a.change b.change)
    (ha : (c.run past).transition a.change a.block = .ok t)
    (hb : t.channel.transition b.change b.block = .ok u) :
    ∃ t' u', (c.run past).transition b.change b.block = .ok t' ∧
      t'.channel.transition a.change a.block = .ok u' ∧
      t'.events = u.events ∧ u'.events = t.events ∧ u.channel.Alike u'.channel ∧
      u.channel.updateTransaction = latestUpdate (c.run past).updateTransaction [a, b] ∧
      u'.channel.updateTransaction = latestUpdate (c.run past).updateTransaction [b, a] ∧
      ∀ future sender block s, (u.channel.run future).SettlesTo sender block s ↔
        (u'.channel.run future).SettlesTo sender block s := by
  have hl := lawful_of_run h past
  have hs := Step.of_transition hl.distinct ha
  have ht := hl.step hs
  have hs' := Step.of_transition ht.distinct hb
  have hu := ht.step hs'
  obtain ⟨t', u', first, second, events, events', alike⟩ := hs.swap hl hi hs'
  have ht' := hl.step first
  refine ⟨t', u', first.transition_eq hl.distinct, second.transition_eq ht'.distinct, events,
    events', alike, ?_, ?_, ?_⟩
  · rw [hs'.updateTransaction_eq, hs.updateTransaction_eq]
    exact (latestUpdate_append _ [a] [b]).symm
  · rw [second.updateTransaction_eq, first.updateTransaction_eq]
    exact (latestUpdate_append _ [b] [a]).symm
  · intro future sender block s
    have reached := (lawful_run hu future).1
    exact (alike.run hu future).settlesTo_iff reached.distinct

end Channel

namespace Sample

/-- A proof of the first end, without locks. -/
def answer : BalanceProof where
  nonce := 1
  transferredAmount := 3
  locksroot := emptyLocksroot
  additionalHash := .zero
  identifier := identifier
  openBlock := 1
  signature := some (bigEndian 65
    0x62a99416c74b0a32f4f8807ee73b73e32e24464eb7682823dd7b1c6a719bdb5d768413b00906629ef29a01593333ccc798f4bcf02ede7915737f082b133d14bb1c)
  sender := none

theorem signer_answer : answer.signer = .ok first :=
  signerOf_eq_ok_iff.mpr ⟨_, rfl, by decide +kernel⟩

/-- After the first end has recorded a proof, the second one does, too. -/
theorem transition_answer : ∃ events, updated.transition (.update second answer) 12 =
    .ok ⟨updated.afterUpdate .ours answer 12, events⟩ := by
  have signed : answer.verify first = .ok () := BalanceProof.verify_eq_ok_iff.mpr signer_answer
  have newer : Channel.Supersedes answer none := fun _ h => by cases h
  have hs : updated.Step 12 (.update second answer) ⟨_, _⟩ :=
    .update .ours answer (by decide) ⟨15, by decide, by decide⟩ ⟨rfl, rfl, signed⟩ newer
  exact ⟨_, hs.transition_eq (by decide)⟩

end Sample

namespace Channel

/-- Each end of the sample dispute submits a proof of the other one, at different blocks. -/
theorem independent_commute_sample : ∃ t' u',
    (Sample.channel.run [Sample.close]).transition (.update Sample.second Sample.answer) 12 =
      .ok t' ∧
    t'.channel.transition (.update Sample.first Sample.proof) 15 = .ok u' ∧
    u'.channel.updateTransaction = some (.succeeded 15) ∧
    ∃ s, (Sample.updated.afterUpdate .ours Sample.answer 12).SettlesTo Sample.first 16 s ∧
      u'.channel.SettlesTo Sample.first 16 s := by
  have closed : Sample.channel.run [Sample.close] = Sample.channel.afterClose .partner none 10 :=
    Sample.attempt_close
  obtain ⟨events, accepted⟩ := Sample.transition_update
  obtain ⟨events', accepted'⟩ := Sample.transition_answer
  rw [← closed] at accepted
  obtain ⟨t', u', first, second, -, -, -, -, last, settles⟩ :=
    independent_commute Sample.fresh_channel [Sample.close] (a := Sample.update)
      (b := ⟨.update Sample.second Sample.answer, 12⟩) (.updates (by decide)) accepted accepted'
  have settled : (Sample.updated.afterUpdate .ours Sample.answer 12).Step 16
      (.settle Sample.first) ⟨_, _⟩ := .settle .ours (by decide) ⟨15, by decide, by decide⟩
  have outcome : (Sample.updated.afterUpdate .ours Sample.answer 12).SettlesTo Sample.first 16 _ :=
    ⟨_, settled.transition_eq (by decide), rfl⟩
  exact ⟨t', u', first, second, last, _, outcome, (settles [] _ _ _).mp outcome⟩

end Channel

end PaymentChannel
