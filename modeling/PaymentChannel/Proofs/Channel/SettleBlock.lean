import PaymentChannel.Proofs.Channel.Deadline

/-!
# The block that a refused settlement names

A settlement within the settle timeout is refused, and the refusal names the block to wait for: one
more than the end of the timeout.  Both sums stop at the largest number.  As long as the end is
below it, the channel can be settled from the named block on.  There is no block after the largest
one, so a channel whose timeout ends there stays under dispute for ever, and the block that its
refusals name is refused as well.

* `Channel.settleTimeoutPending_inv` : what a refusal that names a block says of the channel.
* `Channel.SettlesFrom`, `Channel.NeverSettles` : the blocks at which the ends can settle.
* `Channel.settlesFrom_of_lt`, `Channel.neverSettles_of_largest` : which of the two it is, by the
  end of the settle timeout.
* `Channel.not_settled_of_largest` : no run settles a channel whose timeout ends at the largest
  block.
* `Channel.settleBlock_of_run` : both together, for every run and every attempt after it.
* `Sample.settleBlock_refused` : a dispute that no block can end.
-/

namespace PaymentChannel

namespace Quantity

variable {a x : Quantity}

theorem le_largest (x : Quantity) : x ≤ largest :=
  UInt64.le_iff_toNat_le.mpr (Nat.le_of_lt_succ x.toNat_lt)

theorem eq_largest_of_not_lt (h : ¬a < largest) : a = largest :=
  UInt64.le_antisymm (le_largest a) (UInt64.not_lt.mp h)

/-- Below the largest number, adding one is exact. -/
theorem saturatingAdd_one_le_iff (h : a < largest) : a.saturatingAdd 1 ≤ x ↔ a < x := by
  have below : a.toNat < largest.toNat := UInt64.lt_iff_toNat_lt.mp h
  have one : (1 : Quantity).toNat = 1 := rfl
  rw [UInt64.le_iff_toNat_le, UInt64.lt_iff_toNat_lt, toNat_saturatingAdd, one]
  omega

theorem saturatingAdd_one_largest : largest.saturatingAdd 1 = largest := by decide

end Quantity

namespace Channel

variable {c : Channel} {block now settleBlock timeoutEnd : BlockNumber} {sender : Address}

/-! ## The refusal -/

/-- A refusal that names a block comes from a channel under dispute, within its settle timeout. -/
theorem settleTimeoutPending_inv
    (h : c.transition (.settle sender) block = .error (.settleTimeoutPending now settleBlock)) :
    c.status.isUnderDispute = true ∧ (∃ r, sender = (c.party r).address) ∧ now = block ∧
      ∃ timeoutEnd, c.settleTimeoutEnd = some timeoutEnd ∧ block ≤ timeoutEnd ∧
        settleBlock = timeoutEnd.saturatingAdd 1 := by
  unfold transition at h
  split at h
  · cases h
  · simp only [settle, bind_eq_error_iff] at h
    -- The checks before that of the timeout refuse with other errors.
    rcases h with h | ⟨⟨⟩, disputed, h | ⟨⟨own, other⟩, found, h | ⟨timeoutEnd, window, h⟩⟩⟩
    · unfold checkUnderDispute at h
      split at h <;> cases h
    · unfold ends at h
      split at h
      · cases h
      · split at h <;> cases h
    · unfold requireSettleTimeoutEnd at h
      split at h <;> cases h
    · obtain ⟨r, sent, -, -⟩ := ends_eq_ok found
      split at h
      · next early =>
        cases h
        exact ⟨checkUnderDispute_eq_ok_iff.mp disputed, ⟨r, sent⟩, rfl, timeoutEnd,
          requireSettleTimeoutEnd_eq_ok_iff.mp window, early, rfl⟩
      · cases h

/-! ## The blocks of a settlement -/

/-- Either end can settle the channel at the given block and at every later one, and at no earlier
one. -/
def SettlesFrom (c : Channel) (first : BlockNumber) : Prop :=
  ∀ r block, (∃ t, c.transition (.settle (c.party r).address) block = .ok t) ↔ first ≤ block

/-- Whichever end tries to settle the channel, and at whatever block, is told to wait for the given
one. -/
def NeverSettles (c : Channel) (settleBlock : BlockNumber) : Prop :=
  ∀ r block, c.transition (.settle (c.party r).address) block =
    .error (.settleTimeoutPending block settleBlock)

theorem settlesFrom_of_lt (h : c.Distinct) (disputed : c.status.isUnderDispute = true)
    (ends : c.settleTimeoutEnd = some timeoutEnd) (below : timeoutEnd < Quantity.largest) :
    c.SettlesFrom (timeoutEnd.saturatingAdd 1) := by
  intro r block
  rw [Quantity.saturatingAdd_one_le_iff below]
  constructor
  · rintro ⟨t, ht⟩
    refine UInt64.not_le.mp fun early => ?_
    rw [settle_pending h disputed ends early r] at ht
    cases ht
  · intro elapsed
    exact settle_elapsed h disputed ends elapsed r

theorem neverSettles_of_largest (h : c.Distinct) (disputed : c.status.isUnderDispute = true)
    (ends : c.settleTimeoutEnd = some Quantity.largest) : c.NeverSettles Quantity.largest := by
  intro r block
  rw [settle_pending h disputed ends (Quantity.le_largest block) r,
    Quantity.saturatingAdd_one_largest]

/-! ## Runs -/

/-- A settlement needs a block after the end of the settle timeout. -/
theorem not_settled_of_largest (h : c.Lawful) (init : c.status ≠ .settled)
    {attempts : List Attempt} (ends : (c.run attempts).settleTimeoutEnd = some Quantity.largest) :
    (c.run attempts).status ≠ .settled := by
  intro settled
  obtain ⟨a, ha, sender, hsettle⟩ := (settled_run_iff h init attempts).mp settled
  obtain ⟨e, he, elapsed⟩ := settle_after_timeout h ha hsettle
  obtain rfl := Option.some.inj (ends.symm.trans he)
  exact absurd (Quantity.le_largest a.block) (UInt64.not_le.mpr elapsed)

/-- **The block that a refused settlement names.**  A settlement is refused with a block to wait
for only while the channel is under dispute, and then the block follows from the one at which the
channel was closed.  Unless the end of the settle timeout reaches the largest number, either end
can settle from exactly this block on, whatever else is tried before.  If it does reach it, no end
can ever settle the channel, and every try names the same block again. -/
theorem settleBlock_of_run (h : c.Fresh) (past : List Attempt)
    (refused : (c.run past).transition (.settle sender) block =
      .error (.settleTimeoutPending now settleBlock)) :
    now = block ∧ (∃ r, sender = (c.party r).address) ∧ ∃ close ∈ c.history past,
      close.change.kind = .close ∧
      settleBlock.toNat =
        min (close.block.toNat + c.settleTimeout.toNat + 1) Quantity.largest.toNat ∧
      if close.block.toNat + c.settleTimeout.toNat < Quantity.largest.toNat then
        ∀ future, (c.run (past ++ future)).status ≠ .settled →
          (c.run (past ++ future)).SettlesFrom settleBlock
      else ∀ future, (c.run (past ++ future)).NeverSettles settleBlock := by
  have opened : c.status ≠ .settled := by simp [status_of_fresh h]
  have lawful := lawful_of_run h past
  have terms := sameTerms_of_run h past
  obtain ⟨disputed, ⟨r, sent⟩, rfl, timeoutEnd, ends, -, rfl⟩ := settleTimeoutPending_inv refused
  obtain ⟨close, mem, kind, closed⟩ := closeBlock_of_disputed h past disputed
  have sum : timeoutEnd = close.block.saturatingAdd c.settleTimeout := by
    rw [settleTimeoutEnd, closed, terms.settleTimeout] at ends
    exact (Option.some.inj ends).symm
  -- The close and the timeout stay, so the end of the timeout is the same after more attempts.
  have kept : ∀ future, (c.run (past ++ future)).settleTimeoutEnd = some timeoutEnd := by
    intro future
    rw [run_append, settleTimeoutEnd_run lawful (lawful.closed_of_disputed disputed), ends]
  have lasts : ∀ future, (c.run (past ++ future)).status ≠ .settled →
      (c.run (past ++ future)).status.isUnderDispute = true := by
    intro future unsettled
    refine disputed_of_closed ?_ unsettled
    rw [run_append, closeTransaction_run lawful (lawful.closed_of_disputed disputed)]
    exact lawful.closed_of_disputed disputed
  refine ⟨rfl, ⟨r, sent.trans (terms.address r)⟩, close, mem, kind, ?_, ?_⟩
  · rw [sum, Quantity.toNat_saturatingAdd_one]
  · split
    · next below =>
      have below : timeoutEnd < Quantity.largest := sum ▸ Quantity.saturatingAdd_lt_iff.mpr below
      intro future unsettled
      exact settlesFrom_of_lt (lawful_of_run h _).distinct (lasts future unsettled) (kept future)
        below
    · next reached =>
      obtain rfl : timeoutEnd = Quantity.largest :=
        Quantity.eq_largest_of_not_lt (sum ▸ mt Quantity.saturatingAdd_lt_iff.mp reached)
      intro future
      have unsettled := not_settled_of_largest (lawful_of_fresh h) opened (kept future)
      rw [Quantity.saturatingAdd_one_largest]
      exact neverSettles_of_largest (lawful_of_run h _).distinct (lasts future unsettled)
        (kept future)

/-! ## The sample dispute -/

/-- In the sample dispute a settlement at the last block of the settle timeout is told to wait for
block 16, and either end can settle from there on. -/
theorem settleBlock_of_sample : Sample.channel.Fresh ∧
    (Sample.channel.run [Sample.close]).transition Sample.settle.change 15 =
      .error (.settleTimeoutPending 15 16) ∧
    ∀ future, (Sample.channel.run (Sample.close :: future)).status ≠ .settled →
      (Sample.channel.run (Sample.close :: future)).SettlesFrom 16 := by
  have closed : Sample.channel.run [Sample.close] = Sample.channel.afterClose .partner none 10 :=
    Sample.attempt_close
  have ends : (Sample.channel.afterClose .partner none 10).settleTimeoutEnd = some 15 := by decide
  have refused : (Sample.channel.run [Sample.close]).transition Sample.settle.change 15 =
      .error (.settleTimeoutPending 15 16) := by
    rw [closed]
    exact settle_pending (by decide) (by decide) ends (by decide) .ours
  obtain ⟨-, -, close, mem, -, -, exact⟩ :=
    settleBlock_of_run Sample.fresh_channel [Sample.close] refused
  obtain rfl := List.mem_singleton.mp (mem_of_mem_history mem)
  rw [if_pos (by decide)] at exact
  exact ⟨Sample.fresh_channel, refused, exact⟩

end Channel

namespace Sample

/-- The settle timeout of this channel ends at the largest block, wherever it is closed. -/
def endless : Channel := { channel with settleTimeout := Quantity.largest }

theorem fresh_endless : endless.Fresh :=
  ⟨identifier, 1, first, 25, second, 20, Quantity.largest, 100, rfl⟩

/-- A settlement at block 20 is told to wait for the largest block, and refused there as well. -/
theorem settleBlock_refused : endless.Fresh ∧
    (endless.run [close]).status.isUnderDispute = true ∧
    (endless.run [close]).transition (.settle first) 20 =
      .error (.settleTimeoutPending 20 Quantity.largest) ∧
    (endless.run [close]).transition (.settle first) Quantity.largest =
      .error (.settleTimeoutPending Quantity.largest Quantity.largest) := by
  have hs : endless.Step close.block close.change ⟨_, _⟩ :=
    .close .partner none (by decide) (by simp)
  have closed : endless.run [close] = endless.afterClose .partner none 10 :=
    hs.attempt_eq (by decide)
  have ends : (endless.afterClose .partner none 10).settleTimeoutEnd = some Quantity.largest := by
    decide
  have never := Channel.neverSettles_of_largest (by decide) (by decide) ends
  rw [closed]
  exact ⟨fresh_endless, by decide, never .ours 20, never .ours Quantity.largest⟩

end Sample

end PaymentChannel
