import PaymentChannel.Proofs.Channel.Run

/-!
# The invariant of the rules

* `Channel.SameTerms` : what was fixed when the channel was opened.  No step changes it.
* `Channel.sameTerms_of_transition`, `Channel.sameTerms_run` : this holds for ends of the same
  address, too.
* `Channel.Step.party_cases` : how a step changes an end: not at all, or by the close or an update
  that the opposite end sent.
* `Channel.Lawful` : the invariant.  The ends differ, an open channel holds no evidence, an end with
  an update holds a proof, and every recorded proof is authentic.
* `Channel.lawful_of_fresh`, `Channel.Lawful.step`, `Channel.lawful_run` : every run keeps it.
* `Channel.Lawful.run_induction`, `Channel.Lawful.attempts_induction` : inductions over the admitted
  steps of a run, for what is said of the channel and for what is said of the attempts so far.
* `Channel.Lawful.history_inv` : what is known of an attempt that a run admitted.
-/

namespace PaymentChannel

namespace Channel

variable {c d : Channel} {block : BlockNumber} {change : StateChange} {t : Transition} {r : Role}

/-! ## The ends after a step -/

section After

variable (c : Channel) (signer : Role) (block : BlockNumber)

@[simp] theorem party_afterClose (proof : Option BalanceProof) :
    (c.afterClose signer proof block).party signer =
      { c.party signer with balanceProof := proof } := by cases signer <;> rfl

@[simp] theorem party_afterClose_other (proof : Option BalanceProof) :
    (c.afterClose signer proof block).party signer.other = c.party signer.other := by
  cases signer <;> rfl

@[simp] theorem party_afterUpdate (proof : BalanceProof) :
    (c.afterUpdate signer proof block).party signer =
      { c.party signer with balanceProof := some proof, updateBlock := some block } := by
  cases signer <;> rfl

@[simp] theorem party_afterUpdate_other (proof : BalanceProof) :
    (c.afterUpdate signer proof block).party signer.other = c.party signer.other := by
  cases signer <;> rfl

@[simp] theorem party_afterPunish (p : Punishment) (r : Role) :
    (c.afterPunish p).party r = c.party r := by cases r <;> rfl

@[simp] theorem party_afterSettle (r : Role) : (c.afterSettle block).party r = c.party r := by
  cases r <;> rfl

end After

theorem Step.party_cases (hs : c.Step block change t) (r : Role) :
    t.channel.party r = c.party r ∨
      (∃ proof, change = .close (c.party r.other).address proof ∧ c.status = .opened ∧
        (∀ p, proof = some p → c.Authentic r p) ∧
        t.channel.party r = { c.party r with balanceProof := proof }) ∨
      ∃ proof, change = .update (c.party r.other).address proof ∧ c.Authentic r proof ∧
        Supersedes proof (c.party r).balanceProof ∧
        t.channel.party r =
          { c.party r with balanceProof := some proof, updateBlock := some block } := by
  cases hs with
  | close signer proof ho ha =>
    rcases signer.eq_or_eq_other r with rfl | rfl
    · exact Or.inr (Or.inl ⟨proof, rfl, ho, ha, by simp⟩)
    · exact Or.inl (by simp)
  | update signer proof _ _ ha hn =>
    rcases signer.eq_or_eq_other r with rfl | rfl
    · exact Or.inr (Or.inr ⟨proof, rfl, ha, hn, by simp⟩)
    · exact Or.inl (by simp)
  | punish => exact Or.inl (by simp)
  | settle => exact Or.inl (by simp)

/-! ## The terms of a channel -/

/-- What was fixed when the channel was opened. -/
structure SameTerms (c d : Channel) : Prop where
  identifier : d.identifier = c.identifier
  openBlock : d.openBlock = c.openBlock
  settleTimeout : d.settleTimeout = c.settleTimeout
  punishWindow : d.punishWindow = c.punishWindow
  address : ∀ r, (d.party r).address = (c.party r).address
  deposit : ∀ r, (d.party r).deposit = (c.party r).deposit

namespace SameTerms

theorem refl (c : Channel) : SameTerms c c := ⟨rfl, rfl, rfl, rfl, fun _ => rfl, fun _ => rfl⟩

theorem trans {e : Channel} (h : SameTerms c d) (g : SameTerms d e) : SameTerms c e :=
  ⟨g.identifier.trans h.identifier, g.openBlock.trans h.openBlock,
    g.settleTimeout.trans h.settleTimeout, g.punishWindow.trans h.punishWindow,
    fun r => (g.address r).trans (h.address r), fun r => (g.deposit r).trans (h.deposit r)⟩

theorem authentic (h : SameTerms c d) {p : BalanceProof} (hp : c.Authentic r p) :
    d.Authentic r p :=
  ⟨hp.identifier.trans h.identifier.symm, hp.openBlock.trans h.openBlock.symm, by
    rw [h.address r]
    exact hp.verify⟩

end SameTerms

theorem Step.sameTerms (hs : c.Step block change t) : SameTerms c t.channel := by
  have keeps : ∀ r, (t.channel.party r).address = (c.party r).address ∧
      (t.channel.party r).deposit = (c.party r).deposit := by
    intro r
    rcases hs.party_cases r with h | ⟨_, -, -, -, h⟩ | ⟨_, -, -, -, h⟩ <;> rw [h] <;>
      exact ⟨rfl, rfl⟩
  have ends : (∀ r, (t.channel.party r).address = (c.party r).address) ∧
      ∀ r, (t.channel.party r).deposit = (c.party r).deposit :=
    ⟨fun r => (keeps r).1, fun r => (keeps r).2⟩
  cases hs with
  | close | update =>
    exact ⟨identifier_setParty .., openBlock_setParty .., settleTimeout_setParty ..,
      punishWindow_setParty .., ends.1, ends.2⟩
  | punish | settle => exact ⟨rfl, rfl, rfl, rfl, ends.1, ends.2⟩

/-- It is enough to look at both ends. -/
theorem SameTerms.of_ends (identifier : d.identifier = c.identifier)
    (openBlock : d.openBlock = c.openBlock) (settleTimeout : d.settleTimeout = c.settleTimeout)
    (punishWindow : d.punishWindow = c.punishWindow)
    (ours : d.ours.address = c.ours.address ∧ d.ours.deposit = c.ours.deposit)
    (partner : d.partner.address = c.partner.address ∧ d.partner.deposit = c.partner.deposit) :
    SameTerms c d := by
  refine ⟨identifier, openBlock, settleTimeout, punishWindow, ?_, ?_⟩
  · rintro (_ | _)
    · exact ours.1
    · exact partner.1
  · rintro (_ | _)
    · exact ours.2
    · exact partner.2

theorem sameTerms_updateEnd (x : Address) {f : Participant → Participant}
    (kept : ∀ p, (f p).address = p.address ∧ (f p).deposit = p.deposit)
    (closing : Option Address) (close update : Option TransactionStatus) :
    SameTerms c { c.updateEnd x f with
      closingParticipant := closing, closeTransaction := close, updateTransaction := update } := by
  unfold updateEnd
  split
  · exact .of_ends rfl rfl rfl rfl (kept _) ⟨rfl, rfl⟩
  split
  · exact .of_ends rfl rfl rfl rfl ⟨rfl, rfl⟩ (kept _)
  · exact .of_ends rfl rfl rfl rfl ⟨rfl, rfl⟩ ⟨rfl, rfl⟩

/-- A step keeps the terms, for ends of the same address, too. -/
theorem sameTerms_of_transition (h : c.transition change block = .ok t) :
    SameTerms c t.channel := by
  simp only [transition, ite_error_eq_ok_iff] at h
  obtain ⟨-, h⟩ := h
  cases change with
  | close sender proof =>
    obtain ⟨-, _, -, -, rfl⟩ := close_inv h
    refine sameTerms_updateEnd _ ?_ ..
    exact fun _ => ⟨rfl, rfl⟩
  | update sender proof =>
    obtain ⟨-, _, -, -, -, rfl⟩ := update_inv h
    refine sameTerms_updateEnd _ ?_ ..
    exact fun _ => ⟨rfl, rfl⟩
  | punish sender request lock =>
    obtain ⟨-, -, _, _, _, _, _, -, -, rfl⟩ := punish_eq_ok_iff.mp h
    exact .of_ends rfl rfl rfl rfl ⟨rfl, rfl⟩ ⟨rfl, rfl⟩
  | settle sender =>
    obtain ⟨-, -, -, rfl⟩ := settle_eq_ok_iff.mp h
    exact .of_ends rfl rfl rfl rfl ⟨rfl, rfl⟩ ⟨rfl, rfl⟩

theorem sameTerms_run (c : Channel) (attempts : List Attempt) :
    SameTerms c (c.run attempts) :=
  run_induction (P := SameTerms c) (.refl c)
    (fun _ _ _ _ terms ht => terms.trans (sameTerms_of_transition ht)) attempts

/-! ## The invariant -/

/-- The invariant of the rules. -/
structure Lawful (c : Channel) : Prop where
  distinct : c.Distinct
  /-- A channel that was not closed holds no evidence. -/
  unclosed : c.closeTransaction = none → c.updateTransaction = none ∧ c.punishments = [] ∧
    ∀ r, (c.party r).balanceProof = none ∧ (c.party r).updateBlock = none
  /-- An end with an update holds a proof. -/
  updated : ∀ r, (c.party r).updateBlock.isSome → (c.party r).balanceProof.isSome
  authentic : ∀ r p, (c.party r).balanceProof = some p → c.Authentic r p

theorem closeTransaction_of_opened (h : c.status = .opened) : c.closeTransaction = none := by
  unfold status at h
  split at h
  · cases h
  · split at h
    · cases h
    · split at h
      · cases h
      · split at h
        · cases h
        · next hc => simpa using hc

theorem Lawful.party_of_opened (h : c.Lawful) (ho : c.status = .opened) (r : Role) :
    (c.party r).balanceProof = none ∧ (c.party r).updateBlock = none :=
  (h.unclosed (closeTransaction_of_opened ho)).2.2 r

theorem Lawful.punishments_of_opened (h : c.Lawful) (ho : c.status = .opened) :
    c.punishments = [] := (h.unclosed (closeTransaction_of_opened ho)).2.1

theorem Lawful.closed_of_disputed (h : c.Lawful) (hd : c.status.isUnderDispute = true) :
    c.closeTransaction ≠ none := by
  intro hc
  obtain ⟨hu, hp, -⟩ := h.unclosed hc
  unfold status at hd
  split at hd
  · cases hd
  · simp [hc, hu, hp, ChannelStatus.isUnderDispute] at hd

theorem status_of_fresh (h : c.Fresh) : c.status = .opened := by
  obtain ⟨identifier, openBlock, ours, ourDeposit, partner, partnerDeposit, timeout, window, h⟩ := h
  simp only [create, ite_error_eq_ok_iff] at h
  obtain ⟨-, -, h⟩ := h
  cases h
  rfl

theorem lawful_of_fresh (h : c.Fresh) : c.Lawful := by
  obtain ⟨identifier, openBlock, ours, ourDeposit, partner, partnerDeposit, timeout, window, h⟩ := h
  simp only [create, ite_error_eq_ok_iff] at h
  obtain ⟨hne, -, h⟩ := h
  cases h
  refine ⟨hne, fun _ => ⟨rfl, rfl, ?_⟩, ?_, ?_⟩
  · intro r
    cases r <;> exact ⟨rfl, rfl⟩
  · intro r hr
    cases r <;> cases hr
  · intro r p hp
    cases r <;> cases hp

theorem Lawful.step (h : c.Lawful) (hs : c.Step block change t) : t.channel.Lawful := by
  have terms := hs.sameTerms
  refine ⟨distinct_of_addresses h.distinct terms.address, ?_, ?_, ?_⟩
  · intro hc
    cases hs with
    | close => cases hc
    | update _ _ hd =>
      exact absurd ((closeTransaction_setParty ..).symm.trans hc) (h.closed_of_disputed hd)
    | punish _ _ _ _ _ _ _ hd => exact absurd hc (h.closed_of_disputed hd)
    | settle _ hd => exact absurd hc (h.closed_of_disputed hd)
  · intro r
    rcases hs.party_cases r with e | ⟨proof, -, ho, -, e⟩ | ⟨proof, -, -, -, e⟩ <;> rw [e]
    · exact h.updated r
    · intro hu
      rw [(h.party_of_opened ho r).2] at hu
      cases hu
    · exact fun _ => rfl
  · intro r p
    rcases hs.party_cases r with e | ⟨proof, -, -, ha, e⟩ | ⟨proof, -, ha, -, e⟩ <;> rw [e]
    · exact fun hp => terms.authentic (h.authentic r p hp)
    · exact fun hp => terms.authentic (ha p hp)
    · intro hp
      cases hp
      exact terms.authentic ha

/-- **Every run keeps the invariant and the terms.** -/
theorem lawful_run (h : c.Lawful) (attempts : List Attempt) :
    (c.run attempts).Lawful ∧ SameTerms c (c.run attempts) := by
  refine run_induction (P := fun d => d.Lawful ∧ SameTerms c d) ⟨h, .refl c⟩ ?_ attempts
  rintro d change block t ⟨hd, terms⟩ ht
  have hs := Step.of_transition hd.distinct ht
  exact ⟨hd.step hs, terms.trans hs.sameTerms⟩

theorem lawful_of_run (h : c.Fresh) (attempts : List Attempt) : (c.run attempts).Lawful :=
  (lawful_run (lawful_of_fresh h) attempts).1

theorem sameTerms_of_run (h : c.Fresh) (attempts : List Attempt) : SameTerms c (c.run attempts) :=
  (lawful_run (lawful_of_fresh h) attempts).2

/-- What the steps of the relation keep holds after every run. -/
theorem Lawful.run_induction {P : Channel → Prop} (h : c.Lawful) (init : P c)
    (step : ∀ d block change t, d.Lawful → P d → d.Step block change t → P t.channel)
    (attempts : List Attempt) : P (c.run attempts) := by
  refine (Channel.run_induction (P := fun d => d.Lawful ∧ P d) ⟨h, init⟩ ?_ attempts).2
  rintro d change block t ⟨hd, hP⟩ ht
  have hs := Step.of_transition hd.distinct ht
  exact ⟨hd.step hs, step d block change t hd hP hs⟩

/-- What the steps of the relation keep, with the attempts before them, holds after every run. -/
theorem Lawful.attempts_induction (h : c.Lawful) {P : List Attempt → Prop} (init : P [])
    (refused : ∀ past a, P past → c.run (past ++ [a]) = c.run past →
      c.history (past ++ [a]) = c.history past → P (past ++ [a]))
    (admitted : ∀ past a t, P past → (c.run past).Step a.block a.change t →
      c.run (past ++ [a]) = t.channel → c.history (past ++ [a]) = c.history past ++ [a] →
      P (past ++ [a]))
    (attempts : List Attempt) : P attempts := by
  -- The attempts are taken from the front, so the induction runs over those still to come.
  have aux : ∀ future past, P past → P (past ++ future) := by
    intro future
    induction future with
    | nil =>
      intro past hp
      rwa [List.append_nil]
    | cons a rest ih =>
      intro past hp
      have last : c.run (past ++ [a]) = (c.run past).attempt a := run_append c past [a]
      have events := history_append c past [a]
      rw [history_singleton] at events
      rw [List.append_cons]
      refine ih _ ?_
      cases ht : (c.run past).transition a.change a.block with
      | ok t =>
        have hs := Step.of_transition (lawful_run h past).1.distinct ht
        rw [if_pos (admits_iff.mpr ⟨t, ht⟩)] at events
        exact admitted past a t hp hs (last.trans (attempt_of_ok ht)) events
      | error e =>
        have hn : ¬(c.run past).admits a = true := by simp [admits_iff, ht]
        rw [if_neg hn, List.append_nil] at events
        refine refused past a hp (last.trans ?_) events
        rw [attempt, ht]
  exact aux attempts [] init

theorem Lawful.history_inv (h : c.Lawful) {attempts : List Attempt} {a : Attempt}
    (ha : a ∈ c.history attempts) : ∃ past future t, attempts = past ++ a :: future ∧
      (c.run past).Lawful ∧ (c.run past).Step a.block a.change t ∧
      c.run attempts = t.channel.run future := by
  obtain ⟨past, future, rfl, admitted⟩ := mem_history_iff.mp ha
  obtain ⟨t, ht⟩ := admits_iff.mp admitted
  have hl := (lawful_run h past).1
  refine ⟨past, future, t, rfl, hl, Step.of_transition hl.distinct ht, ?_⟩
  rw [run_append, run_cons, attempt_of_ok ht]

end Channel

end PaymentChannel
