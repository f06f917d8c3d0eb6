import PaymentChannel.Proofs.Channel.Mirror
import PaymentChannel.Proofs.Dispute.Docket

/-!
# The block that is kept of a step of our own

A step of our own is taken at the block that the node reports before anything is sent.  Its
transaction is mined later, in the block that its receipt names.  The channel keeps the first block,
as if the transaction had been mined there.

* `Channel.Keeps` : the block that a channel keeps of a step.
* `Channel.keeps_iff_of_transition`, `Channel.views_agree_iff` : it is the block at which the step
  was taken, and two ends agree about a step if they take it at one block.
* `Docket.Dated`, `Docket.dated_of_returned` : whatever happens, the channel keeps the reported
  block, and both ends agree about the step exactly if its transaction was mined in this block.
* `Docket.Sample.kept_before_mined` : it may be mined later.
-/

namespace PaymentChannel

open AccountDialogue

namespace Channel

variable {c c' : Channel} {block block' : BlockNumber} {change : StateChange}

/-! ## The block of a step -/

/-- The channel keeps this block of a step: as the block of its transaction, and of the update of
the end whose proof was recorded, or as the block of the last punishment. -/
def Keeps (c : Channel) (block : BlockNumber) : StateChange → Prop
  | .close .. => c.closeTransaction = some (.succeeded block)
  | .update sender _ => c.updateTransaction = some (.succeeded block) ∧
    ∃ signer, c.counterparty sender = .ok signer ∧
      (c.end? signer).bind (·.updateBlock) = some block
  | .punish .. => c.punishments.getLast?.map (·.block) = some block
  | .settle _ => c.settleTransaction = some (.succeeded block)

theorem counterparty_updateEnd {f : Participant → Participant}
    (hf : ∀ p, (f p).address = p.address) (x y : Address) :
    (c.updateEnd x f).counterparty y = c.counterparty y := by
  unfold updateEnd
  split
  · simp only [counterparty, ends, hf]
    split
    · rfl
    · split <;> simp [Except.map, hf]
  · split
    · simp only [counterparty, ends, hf]
      split
      · simp [Except.map, hf]
      · split <;> rfl
    · rfl

theorem end?_updateEnd {f : Participant → Participant} (hf : ∀ p, (f p).address = p.address)
    (x : Address) : (c.updateEnd x f).end? x = (c.end? x).map f := by
  unfold updateEnd
  split
  · next own => simp only [end?, hf, if_pos own, Option.map_some]
  · next other =>
    split
    · next partner => simp only [end?, hf, if_neg other, if_pos partner, Option.map_some]
    · next absent => simp only [end?, if_neg other, if_neg absent, Option.map_none]

theorem end?_address (c : Channel) (r : Role) :
    ∃ p, c.end? (c.party r).address = some p := by
  cases r with
  | ours => exact ⟨_, if_pos rfl⟩
  | partner =>
    by_cases same : c.partner.address = c.ours.address
    · exact ⟨_, if_pos same⟩
    · exact ⟨_, (if_neg same).trans (if_pos rfl)⟩

/-- An admitted step keeps the block at which it was taken, for ends of the same address, too. -/
theorem keeps_of_transition {t : Transition} (ht : c.transition change block = .ok t) :
    t.channel.Keeps block change := by
  simp only [transition, ite_error_eq_ok_iff] at ht
  obtain ⟨-, ht⟩ := ht
  cases change with
  | close sender proof =>
    obtain ⟨-, signer, -, -, rfl⟩ := close_inv ht
    rfl
  | update sender proof =>
    simp only [update, bind_eq_ok_iff, pure_eq_ok_iff] at ht
    obtain ⟨-, -, signer, found, -, -, rfl⟩ := ht
    have kept : ∀ p : Participant, ({ p with
        balanceProof := some proof, updateBlock := some block } : Participant).address =
          p.address := fun _ => rfl
    -- Both ends may have the signer's address, so the end that was changed is looked up by it.
    refine ⟨rfl, signer, (counterparty_updateEnd kept ..).trans found, ?_⟩
    obtain ⟨r, -, rfl⟩ := counterparty_eq_ok found
    obtain ⟨p, hp⟩ := c.end?_address r
    have recorded := (c.end?_updateEnd kept (c.party r).address).trans (congrArg _ hp)
    exact congrArg (Option.bind · (·.updateBlock)) recorded
  | punish sender request lock =>
    obtain ⟨-, -, beneficiary, cheater, updated, proof, signature, -, -, rfl⟩ :=
      punish_eq_ok_iff.mp ht
    simp only [Keeps, afterPunish, List.getLast?_concat]
    rfl
  | settle sender =>
    obtain ⟨-, -, -, rfl⟩ := settle_eq_ok_iff.mp ht
    rfl

theorem Keeps.block_eq (h : c.Keeps block change) (h' : c.Keeps block' change) :
    block = block' := by
  have succeeded : ∀ {transaction : Option TransactionStatus},
      transaction = some (.succeeded block) → transaction = some (.succeeded block') →
        block = block' := by
    rintro _ rfl he
    cases he
    rfl
  cases change with
  | close => exact succeeded h h'
  | update => exact succeeded h.1 h'.1
  | punish => exact Option.some.inj (h.symm.trans h')
  | settle => exact succeeded h h'

theorem keeps_iff_of_transition {t : Transition} (ht : c.transition change block = .ok t) :
    t.channel.Keeps block' change ↔ block' = block := by
  constructor
  · exact fun h => h.block_eq (keeps_of_transition ht)
  · rintro rfl
    exact keeps_of_transition ht

theorem mirror_mirror (c : Channel) : c.mirror.mirror = c := by
  obtain ⟨_, _, _, _, _, _, _, _, _, _, _, settlement⟩ := c
  cases settlement <;> rfl

/-- **When both ends agree.**  If one end takes a step at one block and the other end takes it at
another, they have the same view afterwards exactly if the blocks are the same. -/
theorem views_agree_iff (h : c.Distinct) (fits : c.Fits) {t t' : Transition}
    (ht : c.transition change block = .ok t)
    (ht' : c.mirror.transition change block' = .ok t') :
    t'.channel = t.channel.mirror ↔ block' = block := by
  rw [transition_mirror h fits] at ht'
  cases taken : c.transition change block' with
  | error e => rw [taken] at ht'; cases ht'
  | ok t'' =>
    rw [taken] at ht'
    cases ht'
    constructor
    · -- The blocks are told apart by what each view keeps of the step.
      intro same
      have views : t''.channel = t.channel := by
        rw [← t''.channel.mirror_mirror, ← t.channel.mirror_mirror]
        exact congrArg mirror same
      refine (keeps_iff_of_transition ht).mp ?_
      rw [← views]
      exact keeps_of_transition taken
    · rintro rfl
      rw [taken] at ht
      cases ht
      rfl

end Channel

/-! ## Our own steps in a run -/

namespace Docket

open Moment Guarded

/-- What is known of a committed step of our own that turned `c` into `c'`. -/
structure Dated (change : StateChange) (c c' : Channel) (moves : List Move) (hash : Hash)
    (reported mined : BlockNumber) : Prop where
  /-- The block is reported before anything is sent. -/
  first : [.heard .blockNumber (.ok reported)] <+: moves
  sent : Accepted moves hash
  receipt : ∃ receipt, minedReceipt? hash moves = some receipt ∧ receipt.block = some mined ∧
    receipt.status = some 1
  /-- The channel keeps the reported block and no other. -/
  keeps : ∀ block, c'.Keeps block change ↔ block = reported
  /-- Whoever sees the step in the block of the receipt keeps that block. -/
  seen : ∀ theirs t, Channel.transition theirs change mined = .ok t →
    ∀ block, t.channel.Keeps block change ↔ block = mined
  /-- The view of the other end. -/
  agree : c.Distinct → c.Fits → ∀ t, c.mirror.transition change mined = .ok t →
    (t.channel = c'.mirror ↔ mined = reported)

theorem dated_of_submit {c c' : Channel} {key : PrivateKey} {change : StateChange}
    {moves : List Move} {hashes : List Hash}
    (h : Returns (c.submit key change) moves (c', hashes)) :
    ∃ hash reported mined, hashes = [hash] ∧ Dated change c c' moves hash reported mined := by
  obtain ⟨reported, rest, event, hash, rfl, taken, handled, rfl⟩ := Channel.submit_returns_iff.mp h
  obtain ⟨contractCall, -, executed⟩ := Event.handle_returns_iff.mp handled
  obtain ⟨⟨raw, sent⟩, receipt, found, status⟩ := contractCall.execute_receipt executed
  obtain ⟨mined, block⟩ := Option.isSome_iff_exists.mp (heard_of_minedReceipt? found).1
  exact ⟨hash, reported, mined, rfl, {
    first := ⟨rest, rfl⟩
    sent := ⟨raw, List.mem_cons_of_mem _ sent⟩
    receipt := ⟨receipt, found, block, status⟩
    keeps := fun _ => Channel.keeps_iff_of_transition taken
    seen := fun _ _ seen _ => Channel.keeps_iff_of_transition seen
    agree := fun distinct fits _ seen => Channel.views_agree_iff distinct fits taken seen }⟩

/-- **What a channel keeps of our own steps.**  Whenever a step of our own is committed, the channel
keeps the block that was reported before its transaction was sent.  It is the block of the receipt,
and both ends agree about the step, exactly if the transaction was mined in that block. -/
theorem dated_of_returned {identifier : Hash} {w w' : Docket} {i : Nat} {hashes : List Hash}
    {log : List (Moment CallEvent)} {service : DisputeService} {init : Channel}
    (hs : service.channel identifier = .ok init)
    (run : Run identifier (fresh service) log w)
    (step : Step identifier w (.event (.returned i (.ok hashes))) w') :
    ∃ change c c' hash reported mined, .event (.invoked i (.submit change)) ∈ log ∧
      w.value.channel identifier = .ok c ∧ w'.value.channel identifier = .ok c' ∧
      hashes = [hash] ∧ Dated change c c' (movesOf i log) hash reported mined := by
  have inv := inv_of_run hs run
  cases step with
  | @conclude _ change _ _ _ service' hi ends hr =>
    obtain ⟨-, invoked, c, hc, path⟩ := inv.submitting hi
    rcases DisputeService.conclude_cases hr with ⟨e, he, -⟩ | ⟨c', found, rfl, he, rfl⟩
    · cases he
    · cases he
      cases ends
      obtain ⟨hash, reported, mined, rfl, dated⟩ := dated_of_submit path
      exact ⟨change, c, c', hash, reported, mined, invoked, hc,
        DisputeService.channel_commit hc c', rfl, dated⟩

namespace Sample

open PaymentChannel.Sample

/-- A close that is taken at block 10 and mined in block 12. -/
theorem run_closed_late : ∃ log w w', Run identifier.channel (fresh service) log w ∧
    Step identifier.channel w (.event (.returned 0 (.ok [.zero]))) w' ∧
    w.value.channel identifier.channel = .ok channel ∧
    w'.value.channel identifier.channel = .ok closed ∧
    minedReceipt? .zero (movesOf 0 log) = some ⟨.zero, some 12, some 1⟩ := by
  have called : (Event.sendClose 10 identifier second none).contractCall closed =
      .ok (.close identifier second none) := rfl
  have mined : (Receipt.mk .zero (some 12) (some 1)).isMined = true := rfl
  obtain ⟨transaction, executed⟩ := ContractCall.execute_carriedOut
    (ContractCall.check_eq_ok_iff.mp check_close) 0 ⟨.zero, 0, .zero, .zero, [], .zero⟩ .zero mined
    (by decide)
  have handled := Event.handle_returns_iff.mpr ⟨_, called, executed⟩
  have submitted : Returns (channel.submit key close.change)
      (.heard .blockNumber (.ok (10 : BlockNumber)) :: _) (closed, [.zero]) :=
    Channel.submit_returns_iff.mpr ⟨10, _, _, .zero, rfl, transition_close, handled, rfl⟩
  have invoked : Run identifier.channel (fresh service)
      [.event (.invoked 0 (.submit close.change))] _ :=
    Run.snoc .nil (.invoke (.submit close.change) rfl)
  have started := invoked.snoc (.start (i := 0) (c := channel) rfl rfl rfl)
  refine ⟨_, _, _, started.moves put_task submitted, .conclude put_task (.done _) rfl, rfl, ?_, ?_⟩
  · have before : service.channel identifier.channel = .ok channel := rfl
    exact DisputeService.channel_commit before closed
  · rw [movesOf_append, movesOf_moves]
    rfl

theorem dated_of_late_close : ∃ log w w', Run identifier.channel (fresh service) log w ∧
    Step identifier.channel w (.event (.returned 0 (.ok [.zero]))) w' ∧
    channel.Distinct ∧ channel.Fits ∧
    ∃ change reported, Dated change channel closed (movesOf 0 log) .zero reported 12 := by
  obtain ⟨log, w, w', run, step, before, after, found⟩ := run_closed_late
  obtain ⟨change, c, c', hash, reported, mined, -, hc, hc', hh, dated⟩ :=
    dated_of_returned rfl run step
  cases hh
  cases before.symm.trans hc
  cases after.symm.trans hc'
  obtain ⟨receipt, found', block, -⟩ := dated.receipt
  cases found.symm.trans found'
  cases block
  exact ⟨log, w, w', run, step, by decide, by decide, change, reported, dated⟩

/-- **The transaction may be mined after the block that is kept of it.**  The close that is taken at
block 10 and mined in block 12 leaves a settle timeout that ends at 15.  For the other end, which
sees it in block 12, the same timeout ends at 17. -/
theorem kept_before_mined : ∃ log w w', Run identifier.channel (fresh service) log w ∧
    Step identifier.channel w (.event (.returned 0 (.ok [.zero]))) w' ∧
    minedReceipt? .zero (movesOf 0 log) = some ⟨.zero, some 12, some 1⟩ ∧
    w'.value.channel identifier.channel = .ok closed ∧ ¬closed.Keeps 12 close.change ∧
    closed.settleTimeoutEnd = some 15 ∧
    ∃ t, channel.mirror.transition close.change 12 = .ok t ∧
      t.channel.settleTimeoutEnd = some 17 := by
  obtain ⟨log, w, w', run, step, -, after, found⟩ := run_closed_late
  refine ⟨log, w, w', run, step, found, after, ?_, rfl, ?_⟩
  · rw [Channel.keeps_iff_of_transition transition_close]
    decide
  · have hs : channel.mirror.Step 12 close.change ⟨_, _⟩ :=
      .close .ours none (by decide) (by simp)
    exact ⟨_, hs.transition_eq (by decide), rfl⟩

end Sample

end Docket

end PaymentChannel
