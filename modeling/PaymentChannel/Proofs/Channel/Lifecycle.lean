import Mathlib.Tactic.SplitIfs
import PaymentChannel.Proofs.Channel.Punishment

/-!
# The life of a channel

The status is read off five fields that four kinds of steps write.  What the fields say together is
an invariant; what they say of the past is proved from the steps that a run admitted.

* `Channel.Coherent` : the fields that are set say the same.  `Channel.Coherent.step`,
  `Channel.coherent_of_run` : every run keeps it.
* `Channel.Step.rank_le`, `Channel.rank_le_run` : the status never moves backwards.
* `Channel.Step.events_eq` : a step is followed by one call, of its own kind and block.
* `Channel.Lifecycle` : what is known after the attempts of a run.
* `Channel.lifecycle_of_run` : all of it holds after every run.
-/

namespace PaymentChannel

/-- How far a status is on the way from opening to settlement. -/
def ChannelStatus.rank : ChannelStatus → Nat
  | opened => 0
  | closed => 1
  | updated => 2
  | punished => 3
  | settled => 4

theorem ChannelStatus.rank_inj {s s' : ChannelStatus} (h : s.rank = s'.rank) : s = s' := by
  cases s <;> cases s' <;> first | rfl | cases h

/-- The kinds of steps, and of the calls that follow from them. -/
inductive StepKind where
  | close
  | update
  | punish
  | settle
  deriving DecidableEq

def StateChange.kind : StateChange → StepKind
  | close .. => .close
  | update .. => .update
  | punish .. => .punish
  | settle .. => .settle

def Event.kind : Event → StepKind
  | sendClose .. => .close
  | sendUpdate .. => .update
  | sendPunish .. => .punish
  | sendSettle .. => .settle

namespace Channel

variable {c : Channel} {block : BlockNumber} {change : StateChange} {t : Transition}

/-! ## The status after a step -/

theorem rank_of_not_settled (h : c.status ≠ .settled) : c.status.rank =
    if c.punishments ≠ [] then 3
    else if c.updateTransaction.isSome then 2
    else if c.closeTransaction.isSome then 1
    else 0 := by
  rw [ne_eq, status_eq_settled_iff] at h
  rw [status, if_neg h]
  cases c.punishments with
  | nil => simp only [List.isEmpty_nil, Bool.not_true]; split_ifs <;> simp_all [ChannelStatus.rank]
  | cons p rest => rfl

theorem Step.rank_le (hs : c.Step block change t) : c.status.rank ≤ t.channel.status.rank := by
  by_cases hsettle : ∃ sender, change = .settle sender
  · rw [hs.settled_iff.mpr hsettle]
    cases c.status <;> decide
  · have after := rank_of_not_settled (mt hs.settled_iff.mp hsettle)
    rw [rank_of_not_settled hs.not_settled, after]
    cases hs with
    | close _ _ ho =>
      have before := rank_of_not_settled (c := c) (by simp [ho])
      rw [← before, ho]
      exact Nat.zero_le _
    | update =>
      simp only [afterUpdate, punishments_setParty, Option.isSome_some]
      split_ifs <;> omega
    | punish =>
      have punished : ∀ p, (c.afterPunish p).punishments ≠ [] :=
        fun p => List.append_ne_nil_of_right_ne_nil _ (List.cons_ne_nil p _)
      rw [if_pos (punished _)]
      split_ifs <;> omega
    | settle sender => exact absurd ⟨_, rfl⟩ hsettle

theorem rank_le_run (h : c.Lawful) (attempts : List Attempt) :
    c.status.rank ≤ (c.run attempts).status.rank :=
  h.run_induction (P := fun d => c.status.rank ≤ d.status.rank) (Nat.le_refl _)
    (fun _ _ _ _ _ hd hs => Nat.le_trans hd hs.rank_le) attempts

theorem settled_run (h : c.Lawful) (hs : c.status = .settled) (attempts : List Attempt) :
    (c.run attempts).status = .settled := by
  have le := rank_le_run h attempts
  rw [hs] at le
  refine ChannelStatus.rank_inj (Nat.le_antisymm ?_ le)
  cases (c.run attempts).status <;> decide

/-! ## The call behind a step -/

theorem Step.events_eq (hs : c.Step block change t) :
    ∃ event, t.events = [event] ∧ event.kind = change.kind ∧ event.block = block := by
  cases hs <;> exact ⟨_, rfl, rfl, rfl⟩

/-! ## The fields -/

/-- The fields that are set say the same. -/
structure Coherent (c : Channel) : Prop where
  unclosed : c.closeTransaction = none → c.closingParticipant = none
  updated : c.updateTransaction.isSome ↔ ∃ r, (c.party r).updateBlock.isSome
  punished : c.punishments ≠ [] → c.updateTransaction.isSome
  settlement : c.settlement.isSome ↔ c.status = .settled

theorem coherent_of_fresh (h : c.Fresh) : c.Coherent := by
  have opened := status_of_fresh h
  obtain ⟨identifier, openBlock, ours, ourDeposit, partner, partnerDeposit, timeout, window, h⟩ := h
  simp only [create, ite_error_eq_ok_iff] at h
  obtain ⟨-, -, h⟩ := h
  cases h
  refine ⟨fun _ => rfl, ?_, fun hp => absurd rfl hp, ?_⟩
  · constructor
    · intro hu
      cases hu
    · rintro ⟨r, hr⟩
      cases r <;> cases hr
  · rw [opened]
    exact ⟨fun hs => (by cases hs), fun hs => (by cases hs)⟩

theorem Step.updated_iff (h : c.Lawful) (hc : c.Coherent) (hs : c.Step block change t) :
    t.channel.updateTransaction.isSome ↔ ∃ r, (t.channel.party r).updateBlock.isSome := by
  cases hs with
  | close signer proof ho =>
    -- Before the close nothing was updated.
    have none : (c.afterClose signer proof block).updateTransaction = none := by
      rw [afterClose, updateTransaction_setParty]
      exact (h.unclosed (closeTransaction_of_opened ho)).1
    rw [none]
    refine ⟨fun hu => (by cases hu), ?_⟩
    rintro ⟨r, hr⟩
    rcases signer.eq_or_eq_other r with rfl | rfl
    · rw [party_afterClose] at hr
      rw [(h.party_of_opened ho _).2] at hr
      cases hr
    · rw [party_afterClose_other] at hr
      rw [(h.party_of_opened ho _).2] at hr
      cases hr
  | update signer proof => exact ⟨fun _ => ⟨signer, by simp⟩, fun _ => rfl⟩
  | punish =>
    simp only [party_afterPunish]
    exact hc.updated
  | settle =>
    simp only [party_afterSettle]
    exact hc.updated

theorem Step.updated_of_punished (h : c.Lawful) (hc : c.Coherent) (hs : c.Step block change t)
    (hp : t.channel.punishments ≠ []) : t.channel.updateTransaction.isSome := by
  cases hs with
  | close _ _ ho =>
    simp only [afterClose, punishments_setParty] at hp
    exact absurd (h.punishments_of_opened ho) hp
  | update => rfl
  | punish _ beneficiary _ _ _ _ _ _ hpun =>
    exact hc.updated.mpr ⟨beneficiary, by rw [hpun.updateBlock]; rfl⟩
  | settle => exact hc.punished hp

theorem Step.settlement_iff (hc : c.Coherent) (hs : c.Step block change t) :
    t.channel.settlement.isSome ↔ t.channel.status = .settled := by
  have before : ¬c.settlement.isSome := mt hc.settlement.mp hs.not_settled
  rw [hs.settled_iff]
  cases hs with
  | close | update =>
    refine ⟨fun h => absurd ?_ before, fun ⟨_, h⟩ => by cases h⟩
    rwa [← settlement_setParty]
  | punish => exact ⟨fun h => absurd h before, fun ⟨_, h⟩ => by cases h⟩
  | settle => exact ⟨fun _ => ⟨_, rfl⟩, fun _ => rfl⟩

theorem Coherent.step (h : c.Lawful) (hc : c.Coherent) (hs : c.Step block change t) :
    t.channel.Coherent := by
  refine ⟨?_, hs.updated_iff h hc, hs.updated_of_punished h hc, hs.settlement_iff hc⟩
  cases hs with
  | close => exact fun hn => by cases hn
  | update =>
    simp only [afterUpdate, closeTransaction_setParty, closingParticipant_setParty]
    exact hc.unclosed
  | punish | settle => exact hc.unclosed

theorem coherent_of_run (h : c.Fresh) (attempts : List Attempt) : (c.run attempts).Coherent :=
  (lawful_of_fresh h).run_induction (coherent_of_fresh h)
    (fun _ _ _ _ hl hd hs => hd.step hl hs) attempts

/-! ## What was admitted -/

/-- How many steps of a kind a run admitted. -/
def admitted (c : Channel) (kind : StepKind) (attempts : List Attempt) : Nat :=
  (c.history attempts).countP fun a => a.change.kind = kind

theorem admitted_pos_iff {kind : StepKind} {attempts : List Attempt} :
    0 < c.admitted kind attempts ↔ ∃ a ∈ c.history attempts, a.change.kind = kind := by
  simp [admitted, List.countP_pos_iff]

/-- Only a step of its kind adds to what was admitted of it. -/
theorem admitted_append {kind : StepKind} {past : List Attempt} {a : Attempt}
    (events : c.history (past ++ [a]) = c.history past ++ [a]) :
    c.admitted kind (past ++ [a]) =
      c.admitted kind past + if a.change.kind = kind then 1 else 0 := by
  rw [admitted, events, List.countP_append, List.countP_singleton]
  simp [admitted]

/-- A step that is not admitted after itself is admitted once at most. -/
theorem admitted_le_one (h : c.Lawful) {kind : StepKind} (attempts : List Attempt)
    (once : ∀ past (a : Attempt) t, (c.run past).Step a.block a.change t → a.change.kind = kind →
      ∀ b ∈ c.history past, b.change.kind ≠ kind) : c.admitted kind attempts ≤ 1 := by
  refine h.attempts_induction (P := fun attempts => c.admitted kind attempts ≤ 1) ?_ ?_ ?_ attempts
  · exact Nat.zero_le _
  · intro past a ih _ events
    rwa [admitted, events]
  · intro past a t ih hs _ events
    rw [admitted_append events]
    split
    · next e =>
      have none : ¬0 < c.admitted kind past := by
        rw [admitted_pos_iff]
        rintro ⟨b, hb, he⟩
        exact once past a t hs e b hb he
      omega
    · exact ih

theorem kind_eq_close_iff :
    change.kind = .close ↔ ∃ sender proof, change = .close sender proof := by
  cases change <;> simp [StateChange.kind]

theorem kind_eq_settle_iff : change.kind = .settle ↔ ∃ sender, change = .settle sender := by
  cases change <;> simp [StateChange.kind]

theorem closes_once (h : c.Lawful) (attempts : List Attempt) :
    c.admitted .close attempts ≤ 1 := by
  refine admitted_le_one h attempts fun past a t hs hkind b hb => ?_
  obtain ⟨sender, proof, e⟩ := kind_eq_close_iff.mp hkind
  rw [e] at hs
  cases hs with
  | close signer _ ho =>
    intro hk
    obtain ⟨sender', proof', e'⟩ := kind_eq_close_iff.mp hk
    exact no_close_of_unclosed h (closeTransaction_of_opened ho) hb sender' proof' e'

theorem settles_once (h : c.Lawful) (init : c.status ≠ .settled) (attempts : List Attempt) :
    c.admitted .settle attempts ≤ 1 := by
  refine admitted_le_one h attempts fun past a t hs _ b hb hk => ?_
  exact hs.not_settled ((settled_run_iff h init past).mpr ⟨b, hb, kind_eq_settle_iff.mp hk⟩)

/-! ## The close -/

theorem Step.closingParticipant_eq (hs : c.Step block change t) (hc : c.closeTransaction ≠ none) :
    t.channel.closingParticipant = c.closingParticipant := by
  cases hs with
  | close _ _ ho => exact absurd (closeTransaction_of_opened ho) hc
  | update => exact closingParticipant_setParty ..
  | punish | settle => rfl

theorem closingParticipant_run (h : c.Lawful) (hc : c.closeTransaction ≠ none)
    (attempts : List Attempt) : (c.run attempts).closingParticipant = c.closingParticipant := by
  have kept := h.run_induction (P := fun d => d.closeTransaction = c.closeTransaction ∧
    d.closingParticipant = c.closingParticipant) ⟨rfl, rfl⟩ ?_ attempts
  · exact kept.2
  · rintro d block change t - ⟨htransaction, hparticipant⟩ hs
    have closed : d.closeTransaction ≠ none := by rwa [htransaction]
    rw [hs.closeTransaction_eq closed, hs.closingParticipant_eq closed]
    exact ⟨htransaction, hparticipant⟩

/-- What an admitted close has set stays. -/
theorem closed_of_mem_history (h : c.Lawful) {attempts : List Attempt} {a : Attempt}
    (ha : a ∈ c.history attempts) (hkind : a.change.kind = .close) :
    (c.run attempts).closeTransaction = some (.succeeded a.block) ∧
      (c.run attempts).closingParticipant = some a.change.sender ∧
      ∃ r, a.change.sender = (c.party r).address := by
  obtain ⟨past, future, t, rfl, hl, hs, e⟩ := h.history_inv ha
  have terms := (lawful_run h past).2
  have lawful := hl.step hs
  obtain ⟨sender, proof, hchange⟩ := kind_eq_close_iff.mp hkind
  rw [e, hchange]
  rw [hchange] at hs
  cases hs with
  | close signer =>
    have closed : ((c.run past).afterClose signer proof a.block).closeTransaction ≠ none :=
      Option.some_ne_none _
    rw [closeTransaction_run lawful closed, closingParticipant_run lawful closed]
    exact ⟨rfl, rfl, signer.other, terms.address _⟩

/-- A channel that is closed was closed by a step of the run. -/
theorem unclosed_of_run (h : c.Fresh) (attempts : List Attempt)
    (hn : ∀ a ∈ c.history attempts, a.change.kind ≠ .close) :
    (c.run attempts).closeTransaction = none := by
  have init : c.closeTransaction = none := closeTransaction_of_opened (status_of_fresh h)
  have hl := lawful_of_fresh h
  have aux := hl.attempts_induction
    (P := fun attempts => (∀ a ∈ c.history attempts, a.change.kind ≠ .close) →
      (c.run attempts).closeTransaction = none) (fun _ => init) ?_ ?_ attempts
  · exact aux hn
  · intro past a ih e events hn
    rw [events] at hn
    rw [e]
    exact ih hn
  · intro past a t ih hs e events hn
    rw [events] at hn
    have before := ih fun b hb => hn b (List.mem_append_left _ hb)
    have last := hn a (List.mem_append_right _ (List.mem_singleton_self a))
    rw [e]
    generalize a.change = change at hs last
    cases hs with
    | close => exact absurd rfl last
    | update _ _ hd => exact absurd before ((lawful_run hl past).1.closed_of_disputed hd)
    | punish => exact before
    | settle => exact before

/-! ## The first punishment -/

/-- Before the first punishment an update was admitted. -/
theorem updated_before_punished (h : c.Fresh) (attempts : List Attempt) :
    (c.run attempts).punishments ≠ [] → ∃ past a future, attempts = past ++ a :: future ∧
      (c.run past).admits a = true ∧ a.change.kind = .update ∧ (c.run past).punishments = [] := by
  have hl := lawful_of_fresh h
  refine hl.attempts_induction (P := fun attempts => (c.run attempts).punishments ≠ [] →
    ∃ past a future, attempts = past ++ a :: future ∧ (c.run past).admits a = true ∧
      a.change.kind = .update ∧ (c.run past).punishments = []) ?_ ?_ ?_ attempts
  · intro hp
    exact absurd (hl.punishments_of_opened (status_of_fresh h)) hp
  · intro past a ih e _ hp
    rw [e] at hp
    obtain ⟨before, u, after, rfl, hu⟩ := ih hp
    exact ⟨before, u, after ++ [a], by simp, hu⟩
  · intro past a t ih hs e _ hp
    by_cases hpast : (c.run past).punishments ≠ []
    · obtain ⟨before, u, after, rfl, hu⟩ := ih hpast
      exact ⟨before, u, after ++ [a], by simp, hu⟩
    · rw [ne_eq, Decidable.not_not] at hpast
      rw [e] at hp
      rcases hs.punishments_cases with e' | ⟨_, role, _, _, updated, proof, -, hpun, -⟩
      · exact absurd (e'.trans hpast) hp
      · -- The punishment rests on an update, and nothing was punished before that.
        have fresh := hl.party_of_opened (status_of_fresh h) role
        have recorded := updated_of_run hl fresh.2 past hpun.updateBlock hpun.balanceProof
        obtain ⟨before, after, rfl, hadm⟩ := mem_history_iff.mp recorded
        have kept := punishments_prefix_run (lawful_of_run h before)
          (⟨.update (c.party role.other).address proof, updated⟩ :: after)
        rw [← run_append, hpast] at kept
        exact ⟨before, _, after ++ [a], by simp, hadm, rfl, List.prefix_nil.mp kept⟩

/-! ## The life of a channel -/

/-- What is known of a channel after the attempts of a run. -/
structure Lifecycle (c : Channel) (attempts : List Attempt) : Prop where
  /-- The status never moves backwards. -/
  forward : ∀ future, (c.run attempts).status.rank ≤ (c.run (attempts ++ future)).status.rank
  closesOnce : c.admitted .close attempts ≤ 1
  settlesOnce : c.admitted .settle attempts ≤ 1
  /-- Before a close, nothing tells of one. -/
  unclosed : c.admitted .close attempts = 0 → (c.run attempts).closeTransaction = none ∧
    (c.run attempts).closingParticipant = none ∧ (c.run attempts).closeBlock = none
  /-- What the close has set never changes. -/
  closed : ∀ a ∈ c.history attempts, a.change.kind = .close →
    (∃ r, a.change.sender = (c.party r).address) ∧
    ∀ future, (c.run (attempts ++ future)).closeTransaction = some (.succeeded a.block) ∧
      (c.run (attempts ++ future)).closingParticipant = some a.change.sender ∧
      (c.run (attempts ++ future)).closeBlock = some a.block
  updated : (c.run attempts).updateTransaction.isSome ↔
    ∃ r, ((c.run attempts).party r).updateBlock.isSome
  evidence : ∀ r, ((c.run attempts).party r).updateBlock.isSome →
    ((c.run attempts).party r).balanceProof.isSome
  /-- An update was admitted before anything was punished. -/
  punished : (c.run attempts).punishments ≠ [] → (c.run attempts).updateTransaction.isSome ∧
    ∃ past a future, attempts = past ++ a :: future ∧ (c.run past).admits a = true ∧
      a.change.kind = .update ∧ (c.run past).punishments = []
  settlement : (c.run attempts).settlement.isSome ↔ (c.run attempts).status = .settled
  /-- A settled channel admits no step. -/
  final : (c.run attempts).status = .settled → ∀ future change block,
    (c.run (attempts ++ future)).transition change block = .error .channelFinalized
  terms : SameTerms c (c.run attempts)
  /-- Every step is followed by one call, of its own kind and block. -/
  events : ∀ change block t, (c.run attempts).transition change block = .ok t →
    ∃ event, t.events = [event] ∧ event.kind = change.kind ∧ event.block = block

/-- **The life of a channel.**  Whatever is attempted from the opening on, at whatever blocks and in
whatever order. -/
theorem lifecycle_of_run (h : c.Fresh) (attempts : List Attempt) : c.Lifecycle attempts := by
  have hl := lawful_of_fresh h
  have lawful := lawful_of_run h attempts
  have coherent := coherent_of_run h attempts
  have opened : c.status ≠ .settled := by simp [status_of_fresh h]
  exact {
    forward := fun future => by
      rw [run_append]
      exact rank_le_run lawful future
    closesOnce := closes_once hl attempts
    settlesOnce := settles_once hl opened attempts
    unclosed := fun hn => by
      have closed := unclosed_of_run h attempts fun a ha hkind => by
        have := admitted_pos_iff.mpr ⟨a, ha, hkind⟩
        omega
      exact ⟨closed, coherent.unclosed closed, by rw [closeBlock, closed]; rfl⟩
    closed := fun a ha hkind => by
      refine ⟨(closed_of_mem_history hl ha hkind).2.2, fun future => ?_⟩
      have later : a ∈ c.history (attempts ++ future) := by
        rw [history_append]
        exact List.mem_append_left _ ha
      obtain ⟨htransaction, hparticipant, -⟩ := closed_of_mem_history hl later hkind
      exact ⟨htransaction, hparticipant, by rw [closeBlock, htransaction]; rfl⟩
    updated := coherent.updated
    evidence := lawful.updated
    punished := fun hp => ⟨coherent.punished hp, updated_before_punished h attempts hp⟩
    settlement := coherent.settlement
    final := fun hs future change block => by
      have settled := settled_run lawful hs future
      rw [run_append]
      unfold transition
      exact if_pos settled
    terms := sameTerms_of_run h attempts
    events := fun _ _ _ ht => (Step.of_transition lawful.distinct ht).events_eq }

/-- The sample dispute is closed once, by its first end at block 10, and settled for good. -/
theorem lifecycle_of_sample : Sample.channel.Fresh ∧
    Sample.channel.Lifecycle [Sample.close, Sample.update, Sample.settle] ∧
    Sample.channel.admitted .close [Sample.close, Sample.update, Sample.settle] = 1 ∧
    (Sample.channel.run [Sample.close, Sample.update, Sample.settle]).settlement.isSome ∧
    ∀ future change block,
      (Sample.channel.run ([Sample.close, Sample.update, Sample.settle] ++ future)).transition
        change block = .error .channelFinalized := by
  have life := lifecycle_of_run Sample.fresh_channel [Sample.close, Sample.update, Sample.settle]
  have settled : (Sample.channel.run [Sample.close, Sample.update, Sample.settle]).status =
      .settled := by
    rw [Sample.run_settled]
    rfl
  have closed :
      Sample.channel.admitted .close [Sample.close, Sample.update, Sample.settle] ≠ 0 := by
    intro hn
    have unclosed := (life.unclosed hn).1
    rw [Sample.run_settled] at unclosed
    cases unclosed
  have once := life.closesOnce
  exact ⟨Sample.fresh_channel, life, by omega, life.settlement.mpr settled, life.final settled⟩

end Channel

end PaymentChannel
