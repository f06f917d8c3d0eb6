import PaymentChannel.Proofs.Channel.Invariant

/-!
# How far a run has come

* `Channel.closeTransaction_run`, `Channel.settleTimeoutEnd_run` : the close of a channel and the
  end of its settle timeout stay as they are.
* `Channel.disputed_of_closed` : a closed channel is under dispute until it is settled.
* `Channel.settled_run_iff` : a run has settled the channel if it admitted a settlement.
* `Channel.settle_after_timeout` : which comes after the settle timeout.
-/

namespace PaymentChannel

namespace Channel

variable {c : Channel} {block : BlockNumber} {change : StateChange} {t : Transition}

/-! ## The close -/

theorem Step.closeTransaction_eq (hs : c.Step block change t) (hc : c.closeTransaction ≠ none) :
    t.channel.closeTransaction = c.closeTransaction := by
  cases hs with
  | close _ _ ho => exact absurd (closeTransaction_of_opened ho) hc
  | update => exact closeTransaction_setParty ..
  | punish | settle => rfl

theorem closeTransaction_run (h : c.Lawful) (hc : c.closeTransaction ≠ none)
    (attempts : List Attempt) : (c.run attempts).closeTransaction = c.closeTransaction := by
  refine h.run_induction (P := fun d => d.closeTransaction = c.closeTransaction) rfl ?_ attempts
  intro d block change t _ hd hs
  rw [hs.closeTransaction_eq (by rwa [hd]), hd]

theorem settleTimeoutEnd_run (h : c.Lawful) (hc : c.closeTransaction ≠ none)
    (attempts : List Attempt) : (c.run attempts).settleTimeoutEnd = c.settleTimeoutEnd := by
  rw [settleTimeoutEnd, closeBlock, closeTransaction_run h hc,
    (lawful_run h attempts).2.settleTimeout]
  rfl

/-- While the channel is not closed, no close was admitted. -/
theorem no_close_of_unclosed (h : c.Lawful) {past : List Attempt}
    (hc : (c.run past).closeTransaction = none) {a : Attempt} (ha : a ∈ c.history past)
    (sender : Address) (proof : Option BalanceProof) : a.change ≠ .close sender proof := by
  obtain ⟨before, after, t, rfl, hl, hs, e⟩ := h.history_inv ha
  intro he
  have closed : t.channel.closeTransaction ≠ none := by
    rw [he] at hs
    cases hs
    exact Option.some_ne_none _
  rw [e, closeTransaction_run (hl.step hs) closed] at hc
  exact closed hc

/-! ## The settlement -/

theorem status_eq_settled_iff :
    c.status = .settled ↔ c.settleTransaction.any (·.isSuccess) = true := by
  unfold status
  split
  · simp_all
  · repeat' split
    all_goals simp_all

theorem disputed_of_closed (hc : c.closeTransaction ≠ none) (hs : c.status ≠ .settled) :
    c.status.isUnderDispute = true := by
  cases e : c.status with
  | opened => exact absurd (closeTransaction_of_opened e) hc
  | closed | updated | punished => rfl
  | settled => exact absurd e hs

theorem Step.not_settled (hs : c.Step block change t) : c.status ≠ .settled := by
  cases hs with
  | close _ _ ho => simp [ho]
  | update _ _ hd => exact not_settled_of_disputed hd
  | punish _ _ _ _ _ _ _ hd => exact not_settled_of_disputed hd
  | settle _ hd => exact not_settled_of_disputed hd

theorem Step.settled_iff (hs : c.Step block change t) :
    t.channel.status = .settled ↔ ∃ sender, change = .settle sender := by
  have before := hs.not_settled
  rw [ne_eq, status_eq_settled_iff] at before
  rw [status_eq_settled_iff]
  cases hs with
  | close => simpa [afterClose] using before
  | update => simpa [afterUpdate] using before
  | punish => simpa [afterPunish] using before
  | settle => simp [afterSettle, TransactionStatus.succeeded, TransactionStatus.isSuccess]

theorem settled_run_iff (h : c.Lawful) (init : c.status ≠ .settled) (attempts : List Attempt) :
    (c.run attempts).status = .settled ↔
      ∃ a ∈ c.history attempts, ∃ sender, a.change = .settle sender := by
  refine h.attempts_induction (P := fun attempts => (c.run attempts).status = .settled ↔
    ∃ a ∈ c.history attempts, ∃ sender, a.change = .settle sender) ?_ ?_ ?_ attempts
  · simp [init, history]
  · intro past a ih e events
    rw [e, events]
    exact ih
  · intro past a t ih hs e events
    have before : ¬∃ b ∈ c.history past, ∃ sender, b.change = .settle sender :=
      fun hb => hs.not_settled (ih.mpr hb)
    rw [e, events, hs.settled_iff]
    constructor
    · exact fun ha => ⟨a, List.mem_append_right _ (List.mem_singleton_self a), ha⟩
    · rintro ⟨b, hb, hsettle⟩
      rcases List.mem_append.mp hb with hold | hlast
      · exact absurd ⟨b, hold, hsettle⟩ before
      · rwa [← List.mem_singleton.mp hlast]

theorem settle_after_timeout (h : c.Lawful) {attempts : List Attempt} {a : Attempt}
    (ha : a ∈ c.history attempts) {sender : Address} (hsettle : a.change = .settle sender) :
    ∃ e, (c.run attempts).settleTimeoutEnd = some e ∧ e < a.block := by
  obtain ⟨past, future, t, rfl, hl, hs, -⟩ := h.history_inv ha
  rw [hsettle] at hs
  cases hs with
  | settle _ hd elapsed =>
    rw [run_append, settleTimeoutEnd_run hl (hl.closed_of_disputed hd)]
    exact elapsed

end Channel

end PaymentChannel
