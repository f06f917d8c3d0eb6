import PaymentChannel.Proofs.Channel.Invariant
import PaymentChannel.Proofs.Channel.Settlement

/-!
# The two views of a dispute

Each participant keeps the channel with its own end as ours.  Both apply the same steps, their own
and those of the other one that were seen on the chain.

* `Settlement.mirror`, `Channel.mirror`, `Event.mirror`, `Transition.mirror` : the view of the other
  participant, with the two ends swapped.
* `Channel.ends_mirror`, `Channel.updateEnd_mirror` : on different addresses both views find and
  change the same ends.
* `Channel.settlementNow_mirror` : they settle alike as long as the sums fit.
* `Channel.transition_mirror` : one step answers both views alike.
* `Channel.views_agree` : so does every step of a run.
-/

namespace PaymentChannel

/-! ## The view of the other participant -/

/-- The settlement with the two ends swapped. -/
def Settlement.mirror (s : Settlement) : Settlement where
  ourTransferredAmount := s.partnerTransferredAmount
  ourLocksroot := s.partnerLocksroot
  ourBalance := s.partnerBalance
  partnerTransferredAmount := s.ourTransferredAmount
  partnerLocksroot := s.ourLocksroot
  partnerBalance := s.ourBalance

/-- The channel with the two ends swapped. -/
def Channel.mirror (c : Channel) : Channel :=
  { c with
    ours := c.partner
    partner := c.ours
    settlement := c.settlement.map Settlement.mirror }

/-- The call with the two ends swapped.  Only a settlement tells them apart. -/
def Event.mirror : Event → Event
  | .sendSettle block identifier ourAddress partnerAddress settlement =>
    .sendSettle block identifier partnerAddress ourAddress settlement.mirror
  | event => event

/-- What a step makes of the channel, with the two ends swapped. -/
def Transition.mirror (t : Transition) : Transition where
  channel := t.channel.mirror
  events := t.events.map Event.mirror

namespace Channel

variable {c : Channel} {block : BlockNumber} {sender : Address}

/-! ## What both views read -/

theorem party_mirror (c : Channel) (r : Role) : c.mirror.party r = c.party r.other := by
  cases r <;> rfl

theorem Distinct.mirror (h : c.Distinct) : c.mirror.Distinct := h.symm

theorem ends_mirror (h : c.Distinct) (x : Address) : c.mirror.ends x = c.ends x := by
  by_cases hx : ∃ r, x = (c.party r).address
  · -- The end in a role of the one view is the end in the opposite role of the other view.
    obtain ⟨r, rfl⟩ := hx
    have found := ends_address h.mirror r.other
    rw [party_mirror, party_mirror, Role.other_other] at found
    rw [found, ends_address h]
  · rw [not_exists] at hx
    have absent : ∀ r, x ≠ (c.mirror.party r).address := by
      intro r
      rw [party_mirror]
      exact hx r.other
    rw [ends_eq_error hx, ends_eq_error absent]
    rfl

theorem counterparty_mirror (h : c.Distinct) (x : Address) :
    c.mirror.counterparty x = c.counterparty x := by
  rw [counterparty, counterparty, ends_mirror h]

theorem setParty_mirror (c : Channel) (r : Role) (p : Participant) :
    c.mirror.setParty r.other p = (c.setParty r p).mirror := by cases r <;> rfl

theorem updateEnd_mirror (h : c.Distinct) (r : Role) (f : Participant → Participant) :
    c.mirror.updateEnd (c.party r).address f = (c.updateEnd (c.party r).address f).mirror := by
  have found := updateEnd_address h.mirror r.other f
  rw [party_mirror, Role.other_other] at found
  rw [found, updateEnd_address h, setParty_mirror]

theorem checkUpdate_mirror (h : c.Distinct) (proof : BalanceProof) (signer : Address) :
    c.mirror.checkUpdate proof signer block = c.checkUpdate proof signer block := by
  simp only [checkUpdate, ends_mirror h]
  rfl

theorem checkPunish_mirror (h : c.Distinct) (request : PunishRequest) (lock : Lock) :
    c.mirror.checkPunish sender request lock block = c.checkPunish sender request lock block := by
  simp only [checkPunish, ends_mirror h]
  rfl

/-! ## What both views settle -/

theorem balance_mirror (c : Channel) (own other : Participant) :
    c.mirror.balance own other = c.balance own other := by
  have capacity : c.mirror.capacity = c.capacity := Amount.saturatingAdd_comm ..
  simp only [balance, capacity]
  rfl

theorem gained_mirror (c : Channel) (r : Role) : c.mirror.gained r = c.gained r.other := by
  cases r <;> rfl

theorem lost_mirror (c : Channel) (r : Role) : c.mirror.lost r = c.lost r.other := by
  cases r <;> rfl

theorem Fits.mirror (h : c.Fits) : c.mirror.Fits where
  deposits := by
    have swapped : c.mirror.deposits = c.deposits := Nat.add_comm ..
    rw [swapped]
    exact h.deposits
  gained r := by
    rw [gained_mirror]
    exact h.gained r.other
  lost r := by
    rw [lost_mirror]
    exact h.lost r.other

theorem settlementNow_mirror (h : c.Fits) : c.mirror.settlementNow = c.settlementNow.mirror := by
  have balances : ∀ r, c.mirror.settlementNow.balance r = c.settlementNow.balance r.other := by
    -- The one view computes as a balance what the other view leaves of the capacity.
    intro r
    rw [balance_settlementNow h.mirror, balance_settlementNow h, balance_mirror, party_mirror,
      party_mirror]
  rw [Settlement.mk.injEq]
  exact ⟨rfl, rfl, balances .ours, rfl, rfl, balances .partner⟩

/-! ## One step -/

section Guards

variable {ε α β γ : Type} {x : Except ε α} {f : α → Except ε β} {g : α → Except ε γ} {m : β → γ}

theorem bind_eq_map (h : ∀ a, x = .ok a → g a = (f a).map m) : (x >>= g) = (x >>= f).map m := by
  cases x with
  | error e => rfl
  | ok a => exact h a rfl

theorem ite_error_eq_map {p : Prop} [Decidable p] {e : ε} {y : Except ε β} {z : Except ε γ}
    (h : z = y.map m) : (if p then .error e else z) = (if p then .error e else y).map m := by
  split
  · rfl
  · exact h

end Guards

/-! What a step reads apart from the ends is the same in both views by definition, so the checks are
gone through one by one and only the lookups are rewritten. -/

theorem close_mirror (h : c.Distinct) (proof : Option BalanceProof) :
    c.mirror.close sender proof block = (c.close sender proof block).map Transition.mirror := by
  simp only [close, error_bind, counterparty_mirror h]
  refine ite_error_eq_map (bind_eq_map ?_)
  intro partner hp
  obtain ⟨signer, -, rfl⟩ := counterparty_eq_ok hp
  simp only [updateEnd_mirror h]
  cases proof with
  | none => rfl
  | some proof =>
    refine bind_eq_map ?_
    intro _ authentic
    rfl

theorem update_mirror (h : c.Distinct) (proof : BalanceProof) :
    c.mirror.update sender proof block = (c.update sender proof block).map Transition.mirror := by
  simp only [update, counterparty_mirror h, checkUpdate_mirror h]
  refine bind_eq_map ?_
  intro _ disputed
  refine bind_eq_map ?_
  intro partner hp
  obtain ⟨signer, -, rfl⟩ := counterparty_eq_ok hp
  simp only [updateEnd_mirror h]
  refine bind_eq_map ?_
  intro _ newer
  rfl

theorem punish_mirror (h : c.Distinct) (request : PunishRequest) (lock : Lock) :
    c.mirror.punish sender request lock block =
      (c.punish sender request lock block).map Transition.mirror := by
  simp only [punish, checkPunish_mirror h]
  refine bind_eq_map ?_
  intro _ disputed
  refine bind_eq_map ?_
  intro found evidence
  cases request.signature with
  | none => rfl
  | some signature => rfl

theorem settle_mirror (h : c.Distinct) (fits : c.Fits) :
    c.mirror.settle sender block = (c.settle sender block).map Transition.mirror := by
  simp only [settle, error_bind, ends_mirror h, settlementNow_mirror fits]
  refine bind_eq_map ?_
  intro _ disputed
  refine bind_eq_map ?_
  intro ends participant
  refine bind_eq_map ?_
  intro timeoutEnd closed
  exact ite_error_eq_map rfl

/-- **One step answers both views alike.** -/
theorem transition_mirror (h : c.Distinct) (fits : c.Fits) (change : StateChange) :
    c.mirror.transition change block = (c.transition change block).map Transition.mirror := by
  refine ite_error_eq_map ?_
  cases change with
  | close sender proof => exact close_mirror h proof
  | update sender proof => exact update_mirror h proof
  | punish sender request lock => exact punish_mirror h request lock
  | settle sender => exact settle_mirror h fits

/-! ## A whole run -/

theorem attempt_mirror (h : c.Distinct) (fits : c.Fits) (a : Attempt) :
    c.mirror.attempt a = (c.attempt a).mirror := by
  have same : c.mirror.transition a.change a.block =
      (c.transition a.change a.block).map Transition.mirror := transition_mirror h fits a.change
  cases ht : c.transition a.change a.block with
  | ok t =>
    rw [ht] at same
    rw [attempt_of_ok ht, attempt_of_ok same]
    rfl
  | error e =>
    rw [ht] at same
    rw [attempt, attempt, same, ht]
    rfl

theorem distinct_run (h : c.Distinct) (attempts : List Attempt) : (c.run attempts).Distinct := by
  refine run_induction h ?_ attempts
  intro d change block t hd ht
  exact distinct_of_addresses hd (Step.of_transition hd ht).sameTerms.address

theorem run_mirror (h : c.Distinct) {attempts : List Attempt}
    (fits : ∀ past, past <+: attempts → (c.run past).Fits) :
    c.mirror.run attempts = (c.run attempts).mirror := by
  induction attempts generalizing c with
  | nil => rfl
  | cons a rest ih =>
    have now : c.Fits := fits [] List.nil_prefix
    have later : ∀ past, past <+: rest → ((c.attempt a).run past).Fits := by
      intro past hp
      exact fits (a :: past) (List.cons_prefix_cons.mpr ⟨rfl, hp⟩)
    rw [run_cons, run_cons, attempt_mirror h now]
    exact ih (distinct_run h [a]) later

/-- **Both views of a dispute agree.**  As long as the sums fit, each attempt of a run is answered
alike in both views: with the same refusal, or with the swapped channel and the swapped calls. -/
theorem views_agree (h : c.Distinct) {past : List Attempt}
    (fits : ∀ before, before <+: past → (c.run before).Fits) (a : Attempt) :
    c.mirror.run past = (c.run past).mirror ∧
    (c.mirror.run past).transition a.change a.block =
      ((c.run past).transition a.change a.block).map Transition.mirror ∧
    c.mirror.run (past ++ [a]) = (c.run (past ++ [a])).mirror := by
  have now := run_mirror h fits
  have last : (c.run past).Fits := fits past (List.prefix_refl past)
  have distinct := distinct_run h past
  refine ⟨now, ?_, ?_⟩
  · rw [now, transition_mirror distinct last]
  · rw [run_append, run_append, now]
    exact attempt_mirror distinct last a

/-- In the sample dispute the second end sees the same settlement from the other side. -/
theorem views_agree_sample : Sample.channel.Distinct ∧
    (∀ before, before <+: [Sample.close, Sample.update, Sample.punish] →
      (Sample.channel.run before).Fits) ∧
    ∃ t, (Sample.channel.run [Sample.close, Sample.update, Sample.punish]).transition
        Sample.settle.change Sample.settle.block = .ok t ∧
      (Sample.channel.mirror.run [Sample.close, Sample.update, Sample.punish]).transition
        Sample.settle.change Sample.settle.block = .ok t.mirror := by
  have distinct : Sample.channel.Distinct := by decide
  have fits : ∀ before, before <+: [Sample.close, Sample.update, Sample.punish] →
      (Sample.channel.run before).Fits := by
    intro before hb
    simp only [List.prefix_cons_iff, List.prefix_nil] at hb
    rcases hb with rfl | ⟨_, rfl, rfl | ⟨_, rfl, rfl | ⟨_, rfl, rfl⟩⟩⟩
    · decide
    · rw [run_cons, Sample.attempt_close]
      decide
    · rw [Sample.run_updated]
      decide
    · rw [Sample.run_punished]
      decide
  obtain ⟨t, accepted⟩ := Sample.settle_accepted
  have agree := (views_agree distinct fits Sample.settle).2.1
  rw [Sample.run_punished, accepted] at agree
  refine ⟨distinct, fits, t, ?_, agree⟩
  rw [Sample.run_punished, accepted]

end Channel

end PaymentChannel
