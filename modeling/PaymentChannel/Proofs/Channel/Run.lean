import PaymentChannel.Proofs.Channel.Step
import PaymentChannel.Proofs.Evidence

/-!
# Runs of a dispute

A run starts from a fresh channel and makes one attempt after another.  An attempt that the rules
refuse leaves the channel as it is.

* `Channel.Fresh` : a channel that was just opened between two ends without evidence.
* `Channel.run`, `Channel.history` : what a list of attempts makes of a channel, and the attempts
  among them that were admitted.
* `Channel.mem_history_iff` : an attempt is in the history if it was admitted after those before it.
* `Channel.run_induction` : what every admitted step keeps holds after every run.
* `Sample.run_updated`, `Sample.run_punished`, `Sample.run_settled` : in the sample dispute, the
  first end closes the channel and records the proof of the second end at the last block of the
  settle timeout.  One block later the second end punishes the obsolete lock, or the first end
  settles the channel.
-/

namespace PaymentChannel

/-- What a participant tries, and at which block. -/
structure Attempt where
  change : StateChange
  block : BlockNumber
  deriving DecidableEq

namespace Channel

variable {c : Channel} {a : Attempt} {t : Transition}

/-- A channel that was just opened between two ends without evidence. -/
def Fresh (c : Channel) : Prop :=
  ∃ identifier openBlock ours ourDeposit partner partnerDeposit settleTimeout punishWindow,
    create identifier openBlock (.fresh ours ourDeposit) (.fresh partner partnerDeposit)
      settleTimeout punishWindow = .ok c

/-! ## Runs -/

/-- Whether the rules admit an attempt. -/
def admits (c : Channel) (a : Attempt) : Bool := (c.transition a.change a.block).isOk

/-- What an attempt leaves. -/
def attempt (c : Channel) (a : Attempt) : Channel :=
  match c.transition a.change a.block with
  | .ok t => t.channel
  | .error _ => c

/-- What a list of attempts leaves. -/
def run (c : Channel) : List Attempt → Channel
  | [] => c
  | a :: rest => (c.attempt a).run rest

/-- The attempts that the rules admit in a run. -/
def history (c : Channel) : List Attempt → List Attempt
  | [] => []
  | a :: rest => (if c.admits a then [a] else []) ++ (c.attempt a).history rest

theorem admits_iff : c.admits a = true ↔ ∃ t, c.transition a.change a.block = .ok t := by
  unfold admits
  cases c.transition a.change a.block <;> simp [Except.isOk, Except.toBool]

theorem attempt_of_ok (h : c.transition a.change a.block = .ok t) : c.attempt a = t.channel := by
  simp [attempt, h]

theorem Step.attempt_eq (hs : c.Step a.block a.change t) (h : c.Distinct) :
    c.attempt a = t.channel := attempt_of_ok (hs.transition_eq h)

@[simp] theorem run_nil (c : Channel) : c.run [] = c := rfl

@[simp] theorem run_cons (c : Channel) (a : Attempt) (rest : List Attempt) :
    c.run (a :: rest) = (c.attempt a).run rest := rfl

theorem run_append (c : Channel) (past future : List Attempt) :
    c.run (past ++ future) = (c.run past).run future := by
  induction past generalizing c with
  | nil => rfl
  | cons a rest ih => exact ih (c.attempt a)

theorem history_append (c : Channel) (past future : List Attempt) :
    c.history (past ++ future) = c.history past ++ (c.run past).history future := by
  induction past generalizing c with
  | nil => rfl
  | cons a rest ih => simp [history, ih, List.append_assoc]

theorem history_singleton : c.history [a] = if c.admits a = true then [a] else [] :=
  List.append_nil _

theorem mem_history_iff {attempts : List Attempt} :
    a ∈ c.history attempts ↔
      ∃ past future, attempts = past ++ a :: future ∧ (c.run past).admits a = true := by
  induction attempts generalizing c with
  | nil => simp [history]
  | cons b rest ih =>
    rw [history, List.mem_append, ih]
    constructor
    · rintro (hb | ⟨past, future, rfl, ha⟩)
      · split at hb
        · next hadm =>
          obtain rfl := List.mem_singleton.mp hb
          exact ⟨[], rest, rfl, hadm⟩
        · cases hb
      · exact ⟨b :: past, future, rfl, ha⟩
    · rintro ⟨past, future, he, ha⟩
      cases past with
      | nil =>
        obtain ⟨rfl, rfl⟩ := List.cons.inj he
        exact Or.inl (by simp only [run_nil] at ha; simp [ha])
      | cons b' past =>
        obtain ⟨rfl, rfl⟩ := List.cons.inj he
        exact Or.inr ⟨past, future, rfl, ha⟩

theorem mem_of_mem_history {attempts : List Attempt} (h : a ∈ c.history attempts) :
    a ∈ attempts := by
  obtain ⟨past, future, rfl, -⟩ := mem_history_iff.mp h
  exact List.mem_append_right _ List.mem_cons_self

/-- **What every admitted step keeps holds after every run.** -/
theorem run_induction {P : Channel → Prop} (h : P c)
    (step : ∀ d change block t, P d → d.transition change block = .ok t → P t.channel)
    (attempts : List Attempt) : P (c.run attempts) := by
  induction attempts generalizing c with
  | nil => exact h
  | cons a rest ih =>
    refine ih ?_
    cases ht : c.transition a.change a.block with
    | ok t => rw [attempt_of_ok ht]; exact step c _ _ t h ht
    | error e => simpa [attempt, ht] using h

end Channel

/-! ## The sample dispute -/

namespace Sample

def channel : Channel where
  identifier := identifier
  openBlock := 1
  settleTimeout := 5
  punishWindow := 100
  ours := .fresh first 25
  partner := .fresh second 20
  closingParticipant := none
  closeTransaction := none
  updateTransaction := none
  settleTransaction := none
  punishments := []
  settlement := none

theorem fresh_channel : channel.Fresh := ⟨identifier, 1, first, 25, second, 20, 5, 100, rfl⟩

def close : Attempt := ⟨.close first none, 10⟩

def update : Attempt := ⟨.update first proof, 15⟩

/-- The channel after the close and the update. -/
def updated : Channel := (channel.afterClose .partner none 10).afterUpdate .partner proof 15

theorem attempt_close : channel.attempt close = channel.afterClose .partner none 10 := by
  have hs : channel.Step close.block close.change ⟨_, _⟩ :=
    .close .partner none (by decide) (by simp)
  exact hs.attempt_eq (by decide)

theorem transition_update : ∃ events,
    (channel.afterClose .partner none 10).transition (.update first proof) 15 =
      .ok ⟨updated, events⟩ := by
  have signed : proof.verify second = .ok () := BalanceProof.verify_eq_ok_iff.mpr signer_proof
  have newer : Channel.Supersedes proof none := fun _ h => by cases h
  have hs : (channel.afterClose .partner none 10).Step 15 (.update first proof) ⟨_, _⟩ :=
    .update .partner proof (by decide) ⟨15, by decide, by decide⟩ ⟨rfl, rfl, signed⟩ newer
  exact ⟨_, hs.transition_eq (by decide)⟩

theorem attempt_update : (channel.afterClose .partner none 10).attempt update = updated := by
  obtain ⟨events, accepted⟩ := transition_update
  exact Channel.attempt_of_ok (a := update) accepted

theorem run_updated : channel.run [close, update] = updated := by
  rw [Channel.run_cons, attempt_close, Channel.run_cons, attempt_update, Channel.run_nil]

def punish : Attempt := ⟨.punish second request smallLock, 16⟩

/-- The record of the small lock. -/
def record : Punishment := ⟨second, first, smallHash, root, 5, 16⟩

theorem punishable : updated.Punishable (updated.party .partner) (updated.party .ours) request
    smallLock 16 15 proof where
  identifier := rfl
  openBlock := rfl
  ends := rfl
  updateBlock := rfl
  balanceProof := rfl
  inWindow := by decide
  signer := signer_request
  hash := hash_smallLock
  committed := committed
  unpunished := rfl

/-- The punishment is accepted with any lock of the small lock's hash. -/
theorem transition_punish {lock : Lock} (h : lock.hash = smallHash) : ∃ events,
    updated.transition (.punish second request lock) 16 =
      .ok ⟨updated.afterPunish ⟨second, first, smallHash, root, lock.amount, 16⟩, events⟩ := by
  have hs : updated.Step 16 (.punish second request lock) ⟨_, _⟩ :=
    .punish .partner .partner request lock 15 proof _ (by decide) { punishable with hash := h } rfl
  exact ⟨_, hs.transition_eq (by decide)⟩

theorem attempt_punish : updated.attempt punish = updated.afterPunish record := by
  obtain ⟨events, accepted⟩ := transition_punish hash_smallLock
  exact Channel.attempt_of_ok (a := punish) accepted

def settle : Attempt := ⟨.settle first, 16⟩

theorem attempt_settle : updated.attempt settle = updated.afterSettle 16 := by
  have hs : updated.Step settle.block settle.change ⟨_, _⟩ :=
    .settle .ours (by decide) ⟨15, by decide, by decide⟩
  exact hs.attempt_eq (by decide)

theorem run_updated_append (last : Attempt) :
    channel.run [close, update, last] = updated.attempt last := by
  rw [← run_updated]
  rfl

theorem run_punished : channel.run [close, update, punish] = updated.afterPunish record :=
  (run_updated_append punish).trans attempt_punish

theorem run_settled : channel.run [close, update, settle] = updated.afterSettle 16 :=
  (run_updated_append settle).trans attempt_settle

end Sample

end PaymentChannel
