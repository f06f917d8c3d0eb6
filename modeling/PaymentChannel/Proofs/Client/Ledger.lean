import PaymentChannel.Proofs.Account.Reservation
import PaymentChannel.Proofs.Client.Line

/-!
# What a node has accepted

A node may accept a transaction and lose the connection before it answers.  The client then sends
the transaction again, and is told that it is known.

* `Ledger` : what a node has accepted.  `Ledger.Takes`, `Ledger.Serves` : what it answers.
* `Ledger.Takes.count` : only an answer that is lost keeps a transaction from being heard of.
* `CallerState.raw?`, `Line.Step.raw?_inv` : who hands over a transaction, and that it was called
  for.
* `Line.owed` : the accepted transactions that the line has yet to tell of.
  `Line.Inv.owed_of_did` : what a caller does settles it with the node, and otherwise it stays as it
  is until the caller returns.
-/

namespace PaymentChannel

variable {κ : Type}

/-! ## The node -/

/-- The transactions that a node has accepted, and those of them whose answer was lost. -/
structure Ledger where
  accepted : List Bytes := []
  unheard : List Bytes := []

/-- What a node does with a transaction, and how it answers. -/
inductive Ledger.Takes (ledger : Ledger) (raw : Bytes) : NodeAnswer Hash → Ledger → Prop
  | accept (hash : Hash) (new : raw ∉ ledger.accepted) :
      Takes ledger raw (.ok hash) { ledger with accepted := ledger.accepted ++ [raw] }
  /-- The connection is lost before the answer. -/
  | lose (reason : String) (new : raw ∉ ledger.accepted) :
      Takes ledger raw (.error (.unavailable reason))
        ⟨ledger.accepted ++ [raw], ledger.unheard ++ [raw]⟩
  | refuse (e : NodeError) (new : raw ∉ ledger.accepted) : Takes ledger raw (.error e) ledger
  | known (reason : String) (old : raw ∈ ledger.accepted) :
      Takes ledger raw (.error (.rpc reason)) ledger
  | miss (reason : String) : Takes ledger raw (.error (.unavailable reason)) ledger

/-- The transaction that a request hands over. -/
def Request.raw? : Request → Option Bytes
  | call (.sendRawTransaction raw) => some raw
  | _ => none

def Errand.raw? : Errand → Option Bytes
  | call request => request.raw?
  | redial => none

/-- What the node does when a caller does something. -/
inductive Ledger.Serves : Ledger → Deed κ → Ledger → Prop
  | send {ledger ledger' : Ledger} {raw : Bytes} {answer : NodeAnswer Hash}
      (takes : ledger.Takes raw answer ledger') :
      Serves ledger (.heard (.call (.sendRawTransaction raw)) answer) ledger'
  | other {ledger : Ledger} {deed : Deed κ}
      (h : ∀ request answer, deed = .heard request answer → request.raw? = none) :
      Serves ledger deed ledger

/-- What the node has accepted and could tell. -/
theorem Ledger.Takes.count {ledger ledger' : Ledger} {raw : Bytes} {answer : NodeAnswer Hash}
    (h : ledger.Takes raw answer ledger') :
    ledger'.accepted.length + ledger.unheard.length =
      ledger.accepted.length + ledger'.unheard.length +
        (Move.heard (.sendRawTransaction raw) answer).accepted.toNat := by
  cases h with
  | accept | lose => simp [Move.accepted]; omega
  | refuse | known | miss => rfl

/-- No transaction is accepted twice, and only what was accepted is unheard of. -/
structure Ledger.Sound (ledger : Ledger) : Prop where
  distinct : ledger.accepted.Nodup
  lost : ledger.unheard.Sublist ledger.accepted

theorem Ledger.Takes.sound {ledger ledger' : Ledger} {raw : Bytes} {answer : NodeAnswer Hash}
    (h : ledger.Takes raw answer ledger') (sound : ledger.Sound) : ledger'.Sound := by
  obtain ⟨distinct, lost⟩ := sound
  cases h with
  | accept hash new =>
    exact ⟨distinct.append (List.nodup_singleton raw) (List.disjoint_singleton.mpr new),
      lost.trans (List.sublist_append_left ..)⟩
  | lose reason new =>
    exact ⟨distinct.append (List.nodup_singleton raw) (List.disjoint_singleton.mpr new),
      lost.append (List.Sublist.refl _)⟩
  | refuse | known | miss => exact ⟨distinct, lost⟩

theorem Ledger.Serves.idle {ledger : Ledger} {deed : Deed κ} (h : deed.isAnswer = false) :
    ledger.Serves deed ledger := by
  refine .other fun request answer he => ?_
  subst he
  cases h

theorem Ledger.Serves.unsent {ledger : Ledger} {request : Request}
    {answer : NodeAnswer request.Answer} (h : request.raw? = none) :
    ledger.Serves (.heard request answer : Deed κ) ledger := by
  refine .other fun request' answer' he => ?_
  cases he
  exact h

theorem Ledger.Serves.sound {ledger ledger' : Ledger} {deed : Deed κ}
    (h : ledger.Serves deed ledger') (sound : ledger.Sound) : ledger'.Sound := by
  cases h with
  | send takes => exact takes.sound sound
  | other => exact sound

/-! ## On the way back -/

namespace CallerState

/-- The transaction that a caller hands over. -/
def raw? : CallerState κ → Option Bytes
  | waiting errand | working errand _ => errand.raw?
  | absent | gone => none

/-- How many accepted transactions a caller has yet to tell of. -/
def owed : CallerState κ → Nat
  | working (.call (.call (.sendRawTransaction _))) (.ending (.ok _)) => 1
  | _ => 0

theorem owed_eq_zero {state : CallerState κ} (h : state.raw? = none) : state.owed = 0 := by
  unfold owed
  split
  · cases h
  · rfl

theorem owed_unsettled {errand : Errand} {progress : Progress κ errand}
    (h : ∀ result, progress ≠ .ending (.ok result)) : (working errand progress).owed = 0 := by
  unfold owed
  split
  · next he =>
    cases he
    exact absurd rfl (h _)
  · rfl

section

variable (errand : Errand)

@[simp] theorem owed_stage (stage : Stage κ) : (working errand (.stage stage)).owed = 0 :=
  owed_unsettled nofun

@[simp] theorem owed_awaiting (c : κ) : (working errand (.awaiting c)).owed = 0 :=
  owed_unsettled nofun

@[simp] theorem owed_announcing (c : κ) : (working errand (.announcing c)).owed = 0 :=
  owed_unsettled nofun

@[simp] theorem owed_failed (e : NodeError) :
    (working errand (.ending (.error e)) : CallerState κ).owed = 0 :=
  owed_unsettled nofun

end

theorem owed_ending (nodeCall : NodeCall) (answer : NodeAnswer nodeCall.Answer) :
    (working (.call (.call nodeCall)) (.ending answer) : CallerState κ).owed =
      (Move.heard nodeCall answer).accepted.toNat := by
  cases nodeCall with
  | sendRawTransaction => cases answer <;> rfl
  | _ => rfl

end CallerState

namespace Line

variable {limit : Option Nat} {log : List (LineEntry κ)} {line line' : Line κ} {k : Nat}
  {errand : Errand} {progress : Progress κ errand} {entry : LineEntry κ}

/-- How many accepted transactions the line has yet to tell of. -/
def owed (line : Line κ) : Nat :=
  match line.holder with
  | some k => (line.task k).owed
  | none => 0

theorem owed_of_free (h : line.holder = none) : line.owed = 0 := by
  rw [owed, h]

theorem owed_of_holder {state : CallerState κ} (h : line.holder = some k)
    (hk : line.task k = state) : line.owed = state.owed := by
  rw [owed, h, ← hk]

theorem Inv.owed_of_working (inv : Inv limit log line)
    (hk : line.task k = .working errand progress) :
    line.owed = (CallerState.working errand progress).owed :=
  owed_of_holder (inv.working hk).1 hk

/-- Only the one who has the client can change what is owed. -/
theorem Step.owed_of_other (step : Step limit line entry line')
    (kept : line'.holder = line.holder) (other : ∀ j, line.holder = some j → entry.about ≠ some j) :
    line'.owed = line.owed := by
  cases hh : line.holder with
  | none => rw [owed_of_free hh, owed_of_free (kept.trans hh)]
  | some j => rw [owed_of_holder hh rfl, owed_of_holder (kept.trans hh) (step.task_eq (other j hh))]

theorem Inv.owed_of_called (inv : Inv limit log line)
    (step : Step limit line (.called k errand) line') : line'.owed = line.owed := by
  refine step.owed_of_other (by cases step; rfl) fun j hj he => ?_
  obtain ⟨errand', progress, working⟩ := inv.holds j hj
  cases he
  cases step with
  | call _ absent => cases absent.symm.trans working

theorem Step.owed_of_entered (step : Step limit line (.entered k errand) line') :
    line'.owed = line.owed := by
  cases step with
  | enter _ free _ =>
    rw [owed_of_free free, owed]
    exact (congrArg CallerState.owed Guarded.put_task).trans (CallerState.owed_stage ..)

/-- Who is dropped while it waits owes nothing yet. -/
theorem Inv.owed_of_dropped (inv : Inv limit log line) (step : Step limit line (.dropped k) line') :
    line'.owed = line.owed := by
  have dropped := step
  cases step with
  | drop waiting =>
    refine dropped.owed_of_other rfl fun j hj he => ?_
    obtain ⟨errand', progress, working⟩ := inv.holds j hj
    cases he
    cases waiting.symm.trans working
  | @interrupt _ _ progress hk awaits =>
    rw [owed_of_free (if_pos (inv.working hk).1), inv.owed_of_working hk]
    cases progress with
    | stage | awaiting => simp
    | announcing | ending => cases awaits

/-- Who returns owes nothing any more. -/
theorem Inv.owed_of_returned {result : NodeAnswer errand.Result} (inv : Inv limit log line)
    (step : Step limit line (.returned k errand result) line') :
    line.owed = (CallerState.working errand (.ending result) : CallerState κ).owed ∧
      line'.owed = 0 := by
  cases step with
  | leave hk => exact ⟨inv.owed_of_working hk, owed_of_free (if_pos (inv.working hk).1)⟩

/-- Nobody hands over a transaction without having called for it. -/
theorem Step.raw?_inv {raw : Bytes} (step : Step limit line entry line')
    (h : (line'.task k).raw? = some raw) : (line.task k).raw? = some raw ∨
      ∃ errand, entry = .called k errand ∧ errand.raw? = some raw := by
  by_cases own : entry.about = some k
  · cases step with
    | signal => cases own
    | call errand =>
      cases own
      rw [Guarded.put_task] at h
      exact Or.inr ⟨errand, rfl, h⟩
    | enter hk | work hk =>
      cases own
      have handed := (congrArg CallerState.raw? Guarded.put_task).symm.trans h
      exact Or.inl (hk ▸ handed)
    | leave | drop | interrupt =>
      cases own
      simp [Guarded.put, Guarded.freed, CallerState.raw?] at h
  · exact Or.inl (step.task_eq own ▸ h)

theorem Step.raw?_of_returned {result : NodeAnswer errand.Result}
    (step : Step limit line (.returned k errand result) line') : (line'.task k).raw? = none := by
  cases step with
  | leave => exact congrArg CallerState.raw? Guarded.put_task

/-- What a caller does settles what is owed with what the node does. -/
theorem Inv.owed_of_did {deed : Deed κ} {ledger ledger' : Ledger} (inv : Inv limit log line)
    (step : Step limit line (.did k deed) line') (serves : ledger.Serves deed ledger') :
    line'.owed + ledger'.unheard.length + ledger.accepted.length =
      line.owed + ledger.unheard.length + ledger'.accepted.length := by
  cases step with
  | @work _ errand progress progress' _ client hk works =>
    have after : owed { line.put k (.working errand progress') with
        value := ⟨client, line.value.queue⟩ } = (CallerState.working errand progress').owed :=
      owed_of_holder (inv.working hk).1 Guarded.put_task
    rw [inv.owed_of_working hk, after]
    cases serves with
    | @send _ raw _ takes =>
      have count := takes.count
      cases works with
      | retry h =>
        obtain ⟨⟨reason, rfl⟩, -⟩ := RedialingClient.answered_eq_none_iff.mp h
        simp only [Move.accepted, Bool.toNat_false] at count
        rw [CallerState.owed_stage, CallerState.owed_awaiting]
        omega
      | @answer _ _ _ _ _ result h =>
        obtain ⟨-, -, rfl⟩ := RedialingClient.answered_eq_some_iff.mp h
        rw [CallerState.owed_ending (.sendRawTransaction raw) result, CallerState.owed_awaiting]
        omega
    | other unsent =>
      suffices same : (CallerState.working errand progress').owed =
          (CallerState.working errand progress).owed by rw [same]
      cases works with
      | answer =>
        refine (CallerState.owed_eq_zero ?_).trans (CallerState.owed_awaiting ..).symm
        exact unsent _ _ rfl
      | finish => rfl
      | ask | retry | establish | fail | giveUp | rest | resume => simp

end Line

end PaymentChannel
