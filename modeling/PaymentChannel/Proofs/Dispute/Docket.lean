import Mathlib.Data.List.Forall2
import PaymentChannel.Proofs.Account.Guarded
import PaymentChannel.Proofs.Channel.Run
import PaymentChannel.Proofs.Dispute.Submission

/-!
# Concurrent calls on one dispute

Any number of calls work on the channel under one identifier.  A step of our own holds the channel
from its first question to its last answer, and ends when it is answered, when its time is over or
when it is dropped.  A step that was seen on the chain is taken at once.

* `Docket` : the disputes, who holds the channel, and the calls.
* `Docket.Step`, `Docket.Run` : what can happen next, and what has happened.
* `Docket.Attempted` : what a call attempts, as the log has it.
* `Docket.Inv` : the channel is what the committed attempts make of it, and a submission in progress
  works on it.  `Docket.inv_of_run` : every run keeps it.
* `Docket.Linearized`, `Docket.linearized_of_run` : **the calls are atomic, one after the other.**
-/

namespace PaymentChannel

open AccountDialogue Moment Guarded

inductive DisputeCall where
  /-- A step of our own. -/
  | submit (change : StateChange)
  /-- A step that was seen on the chain. -/
  | observe (change : StateChange) (block : BlockNumber)

/-- A step of our own under way. -/
abbrev Submitting : Type := AccountDialogue (Except ServiceError (Channel × List Hash))

/-- What became of a call. -/
inductive CallState where
  | absent
  | waiting (call : DisputeCall)
  | submitting (change : StateChange) (dialogue : Submitting)
  | committed
  | failed

/-- The call is not over. -/
def CallState.Pending : CallState → Prop
  | committed | failed => False
  | _ => True

def CallState.ended {α : Type} : Except ServiceError α → CallState
  | .ok _ => committed
  | .error _ => failed

inductive CallEvent where
  | invoked (i : Nat) (call : DisputeCall)
  | started (i : Nat)
  | returned (i : Nat) (result : Except ServiceError (List Hash))
  | observed (i : Nat) (result : Except ServiceError ChannelStatus)
  | dropped (i : Nat)

/-- The disputes, who holds the channel, and the calls. -/
abbrev Docket : Type := Guarded DisputeService CallState

/-- A submission ends with its result, or without one if its time is over. -/
inductive Ends : Submitting → Option (Except ServiceError (Channel × List Hash)) → Prop
  | done (result : Except ServiceError (Channel × List Hash)) : Ends (.done result) (some result)
  | elapsed {d : Submitting} (awaits : d.Awaits) : Ends d none

/-! ## The disputes of a service -/

namespace DisputeService

variable {service : DisputeService} {identifier : Hash} {c : Channel}

theorem channel_eq_ok_iff :
    service.channel identifier = .ok c ↔ service.channels.lookup identifier = some c := by
  unfold channel
  cases service.channels.lookup identifier <;> simp

theorem lookup_commit {channels : List (Hash × Channel)} {old : Channel}
    (h : channels.lookup identifier = some old) (c : Channel) :
    (channels.map fun entry => if entry.1 = identifier then (identifier, c) else entry).lookup
      identifier = some c := by
  induction channels with
  | nil => cases h
  | cons entry rest ih =>
    rw [List.map_cons]
    by_cases he : entry.1 = identifier
    · rw [if_pos he, List.lookup_cons_self]
    · have ne : (identifier == entry.1) = false := beq_false_of_ne (Ne.symm he)
      obtain ⟨other, _⟩ := entry
      rw [if_neg he]
      rw [List.lookup_cons, ne] at h ⊢
      exact ih h

theorem channel_commit {old : Channel} (h : service.channel identifier = .ok old) (c : Channel) :
    (service.commit identifier c).channel identifier = .ok c :=
  channel_eq_ok_iff.mpr (lookup_commit (channel_eq_ok_iff.mp h) c)

/-- Only a submission with a result that is not an error is committed. -/
theorem conclude_cases {change : StateChange} {service' : DisputeService}
    {answer : Option (Except ServiceError (Channel × List Hash))}
    {result : Except ServiceError (List Hash)}
    (h : service.conclude identifier change answer = (result, service')) :
    (∃ e, result = .error e ∧ service' = service) ∨
      ∃ c hashes, answer = some (.ok (c, hashes)) ∧ result = .ok hashes ∧
        service' = service.commit identifier c := by
  unfold conclude at h
  split at h
  · cases h
    exact Or.inr ⟨_, _, rfl, rfl, rfl⟩
  · cases h
    exact Or.inl ⟨_, rfl, rfl⟩
  · cases h
    exact Or.inl ⟨_, rfl, rfl⟩

theorem applySeen_eq_ok_iff {change : StateChange} {block : BlockNumber} {status : ChannelStatus}
    {service' : DisputeService} :
    service.applySeen identifier change block = .ok (status, service') ↔
      ∃ c t, service.channel identifier = .ok c ∧ c.transition change block = .ok t ∧
        t.channel.status = status ∧ service.commit identifier t.channel = service' := by
  simp only [applySeen, bind_eq_ok_iff, mapError_eq_ok_iff, pure_eq_ok_iff, Prod.mk.injEq]
  constructor
  · rintro ⟨c, hc, t, ht, he⟩
    exact ⟨c, t, hc, ht, he⟩
  · rintro ⟨c, t, hc, ht, he⟩
    exact ⟨c, hc, t, ht, he⟩

end DisputeService

namespace Docket

variable {identifier : Hash} {w w' w₀ : Docket} {i j : Nat} {m : Move} {moment : Moment CallEvent}
  {log : List (Moment CallEvent)} {service : DisputeService} {init c : Channel} {d d' : Submitting}
  {change : StateChange} {a : Attempt} {t : Transition}

def fresh (service : DisputeService) : Docket := ⟨service, none, fun _ => .absent⟩

inductive Step (identifier : Hash) (w : Docket) : Moment CallEvent → Docket → Prop
  | invoke {i : Nat} (call : DisputeCall) (h : w.task i = .absent) :
      Step identifier w (.event (.invoked i call)) (w.put i (.waiting call))
  | start {i : Nat} {change : StateChange} {c : Channel}
      (h : w.task i = .waiting (.submit change)) (free : w.holder = none)
      (hc : w.value.channel identifier = .ok c) :
      Step identifier w (.event (.started i))
        { w.put i (.submitting change (c.submit w.value.key change).run) with holder := some i }
  | move {i : Nat} {change : StateChange} {d d' : Submitting} {m : Move}
      (h : w.task i = .submitting change d) (goes : d.Goes m d') :
      Step identifier w (.moved i m) (w.put i (.submitting change d'))
  | conclude {i : Nat} {change : StateChange} {d : Submitting}
      {answer : Option (Except ServiceError (Channel × List Hash))}
      {result : Except ServiceError (List Hash)} {service : DisputeService}
      (h : w.task i = .submitting change d) (ends : Ends d answer)
      (hr : w.value.conclude identifier change answer = (result, service)) :
      Step identifier w (.event (.returned i result))
        { (w.put i (.ended result)).freed i with value := service }
  | observe {i : Nat} {change : StateChange} {block : BlockNumber} {status : ChannelStatus}
      {service : DisputeService} (h : w.task i = .waiting (.observe change block))
      (free : w.holder = none)
      (hs : w.value.applySeen identifier change block = .ok (status, service)) :
      Step identifier w (.event (.observed i (.ok status)))
        { w.put i .committed with value := service }
  | refuse {i : Nat} {change : StateChange} {block : BlockNumber} {e : ServiceError}
      (h : w.task i = .waiting (.observe change block)) (free : w.holder = none)
      (hs : w.value.applySeen identifier change block = .error e) :
      Step identifier w (.event (.observed i (.error e))) (w.put i .failed)
  | drop {i : Nat} {call : DisputeCall} (h : w.task i = .waiting call) :
      Step identifier w (.event (.dropped i)) (w.put i .failed)
  | interrupt {i : Nat} {change : StateChange} {d : Submitting}
      (h : w.task i = .submitting change d) (awaits : d.Awaits) :
      Step identifier w (.event (.dropped i)) ((w.put i .failed).freed i)

/-- What has happened, and what it led to. -/
inductive Run (identifier : Hash) (w₀ : Docket) : List (Moment CallEvent) → Docket → Prop
  | nil : Run identifier w₀ [] w₀
  | snoc {log : List (Moment CallEvent)} {w w' : Docket} {moment : Moment CallEvent}
      (run : Run identifier w₀ log w) (step : Step identifier w moment w') :
      Run identifier w₀ (log ++ [moment]) w'

/-! ## The log -/

/-- The call that is told that it was committed. -/
def acknowledged : Moment CallEvent → Option Nat
  | .event (.returned i (.ok _)) | .event (.observed i (.ok _)) => some i
  | _ => none

/-- The call that failed or was dropped. -/
def failure : Moment CallEvent → Option Nat
  | .event (.returned i (.error _)) | .event (.observed i (.error _)) | .event (.dropped i) =>
    some i
  | _ => none

/-- The committed calls in the order of their commits. -/
def commits (log : List (Moment CallEvent)) : List Nat := log.filterMap acknowledged

def failures (log : List (Moment CallEvent)) : List Nat := log.filterMap failure

/-- What a call attempts.  A step of our own is taken at the block that the node reports first. -/
def Attempted (log : List (Moment CallEvent)) (i : Nat) (a : Attempt) : Prop :=
  .event (.invoked i (.observe a.change a.block)) ∈ log ∨
    .event (.invoked i (.submit a.change)) ∈ log ∧
      [.heard .blockNumber (.ok a.block)] <+: movesOf i log

/-- The channel is what the attempts of the committed calls make of it, all of them admitted. -/
def Folds (identifier : Hash) (init : Channel) (log : List (Moment CallEvent))
    (service : DisputeService) : Prop :=
  ∃ attempts, List.Forall₂ (Attempted log) (commits log) attempts ∧
    init.history attempts = attempts ∧ service.channel identifier = .ok (init.run attempts)

/-- Whose call an entry is about. -/
def caller : Moment CallEvent → Nat
  | .moved i _ => i
  | .event (.invoked i _) | .event (.started i) | .event (.returned i _)
  | .event (.observed i _) | .event (.dropped i) => i

theorem caller_of_moveOf (h : moveOf i moment = some m) : caller moment = i := by
  obtain rfl := moveOf_eq_some_iff.mp h
  rfl

theorem caller_of_acknowledged (h : acknowledged moment = some i) : caller moment = i := by
  unfold acknowledged at h
  split at h
  · exact Option.some.inj h
  · exact Option.some.inj h
  · cases h

theorem caller_of_failure (h : failure moment = some i) : caller moment = i := by
  unfold failure at h
  split at h
  · exact Option.some.inj h
  · exact Option.some.inj h
  · exact Option.some.inj h
  · cases h

theorem commits_append (past future : List (Moment CallEvent)) :
    commits (past ++ future) = commits past ++ commits future := List.filterMap_append

theorem failures_append (past future : List (Moment CallEvent)) :
    failures (past ++ future) = failures past ++ failures future := List.filterMap_append

theorem commits_snoc : commits (log ++ [moment]) = commits log ++ (acknowledged moment).toList := by
  rw [commits_append]
  cases h : acknowledged moment <;> simp [commits, h]

theorem failures_snoc : failures (log ++ [moment]) = failures log ++ (failure moment).toList := by
  rw [failures_append]
  cases h : failure moment <;> simp [failures, h]

theorem Attempted.snoc (h : Attempted log i a) : Attempted (log ++ [moment]) i a := by
  refine h.imp (List.mem_append_left _) (And.imp (List.mem_append_left _) fun before => ?_)
  rw [movesOf, List.filterMap_append]
  exact before.trans (List.prefix_append _ _)

theorem Folds.frame (h : Folds identifier init log service) (ha : acknowledged moment = none) :
    Folds identifier init (log ++ [moment]) service := by
  obtain ⟨attempts, made, admitted, stored⟩ := h
  refine ⟨attempts, ?_, admitted, stored⟩
  rw [commits_snoc, ha, Option.toList_none, List.append_nil]
  exact made.imp fun _ _ => Attempted.snoc

theorem Folds.commit (h : Folds identifier init log service) (ha : acknowledged moment = some i)
    (attempted : Attempted (log ++ [moment]) i a) (hc : service.channel identifier = .ok c)
    (ht : c.transition a.change a.block = .ok t) :
    Folds identifier init (log ++ [moment]) (service.commit identifier t.channel) := by
  obtain ⟨attempts, made, admitted, stored⟩ := h
  -- The step was taken from what the earlier attempts have made of the channel.
  obtain rfl : c = init.run attempts := Except.ok.inj (hc.symm.trans stored)
  refine ⟨attempts ++ [a], ?_, ?_, ?_⟩
  · rw [commits_snoc, ha]
    exact List.rel_append (made.imp fun _ _ => Attempted.snoc) (.cons attempted .nil)
  · have admits : (init.run attempts).admits a = true := Channel.admits_iff.mpr ⟨t, ht⟩
    rw [Channel.history_append, admitted, Channel.history_singleton, if_pos admits]
  · rw [Channel.run_append, Channel.run_cons, Channel.run_nil, Channel.attempt_of_ok ht]
    exact DisputeService.channel_commit stored t.channel

/-! ## The invariant -/

/-- What is known of a call by its state.  A submission holds the channel and works on it. -/
def Known (identifier : Hash) (log : List (Moment CallEvent)) (w : Docket) (i : Nat) :
    CallState → Prop
  | .absent => movesOf i log = []
  | .waiting call => .event (.invoked i call) ∈ log ∧ movesOf i log = []
  | .submitting change d => w.holder = some i ∧ .event (.invoked i (.submit change)) ∈ log ∧
    ∃ c, w.value.channel identifier = .ok c ∧
      Path (c.submit w.value.key change).run (movesOf i log) d
  | .committed | .failed => True

structure Fits (identifier : Hash) (log : List (Moment CallEvent)) (w : Docket) (i : Nat) :
    Prop where
  known : Known identifier log w i (w.task i)
  committed : i ∈ commits log → w.task i = .committed
  failed : i ∈ failures log → w.task i = .failed

structure Inv (identifier : Hash) (init : Channel) (log : List (Moment CallEvent)) (w : Docket) :
    Prop where
  fits : ∀ i, Fits identifier log w i
  once : (commits log).Nodup
  folds : Folds identifier init log w.value
  confirmed : ∀ i hashes, .event (.returned i (.ok hashes)) ∈ log →
    ∃ hash, hashes = [hash] ∧ Confirmed (movesOf i log) hash

theorem Inv.waiting {call : DisputeCall} (h : Inv identifier init log w)
    (hi : w.task i = .waiting call) : .event (.invoked i call) ∈ log ∧ movesOf i log = [] := by
  have known := (h.fits i).known
  rwa [hi] at known

theorem Inv.submitting (h : Inv identifier init log w) (hi : w.task i = .submitting change d) :
    w.holder = some i ∧ .event (.invoked i (.submit change)) ∈ log ∧
      ∃ c, w.value.channel identifier = .ok c ∧
        Path (c.submit w.value.key change).run (movesOf i log) d := by
  have known := (h.fits i).known
  rwa [hi] at known

/-- What happens to one call leaves the others as they are, unless they work on a channel that
changes. -/
theorem Fits.frame (h : Fits identifier log w j) (ht : w'.task j = w.task j)
    (hj : caller moment ≠ j)
    (hh : w.holder = some j → w'.holder = some j ∧ w'.value = w.value) :
    Fits identifier (log ++ [moment]) w' j := by
  have unmoved : movesOf j (log ++ [moment]) = movesOf j log :=
    movesOf_other (Option.eq_none_iff_forall_ne_some.mpr fun _ => mt caller_of_moveOf hj)
  refine ⟨?_, ?_, ?_⟩
  · have known := h.known
    rw [ht]
    cases hs : w.task j with
    | absent =>
      rw [hs] at known
      exact unmoved.trans known
    | waiting call =>
      rw [hs] at known
      exact ⟨List.mem_append_left _ known.1, unmoved.trans known.2⟩
    | submitting change d =>
      rw [hs] at known
      obtain ⟨holder, invoked, stored⟩ := known
      obtain ⟨holder', value⟩ := hh holder
      refine ⟨holder', List.mem_append_left _ invoked, ?_⟩
      rwa [unmoved, value]
    | committed | failed => trivial
  · rw [commits_snoc, ht, List.mem_append, Option.mem_toList]
    exact fun hc => h.committed (hc.resolve_right (mt caller_of_acknowledged hj))
  · rw [failures_snoc, ht, List.mem_append, Option.mem_toList]
    exact fun hf => h.failed (hf.resolve_right (mt caller_of_failure hj))

theorem Fits.not_over (h : Fits identifier log w i) (hp : (w.task i).Pending) :
    i ∉ commits log ∧ i ∉ failures log := by
  constructor
  · intro hc
    rw [h.committed hc] at hp
    exact hp
  · intro hf
    rw [h.failed hf] at hp
    exact hp

/-- A call that is not over takes its next state, which is over only if the log says so. -/
theorem Fits.extend {state : CallState} (h : Fits identifier log w i) (hp : (w.task i).Pending)
    (ht : w'.task i = state) (known : Known identifier (log ++ [moment]) w' i state)
    (ha : acknowledged moment = none ∨ state = .committed)
    (hf : failure moment = none ∨ state = .failed) : Fits identifier (log ++ [moment]) w' i := by
  obtain ⟨uncommitted, unfailed⟩ := h.not_over hp
  refine ⟨ht ▸ known, ?_, ?_⟩
  · rw [commits_snoc, ht]
    rcases ha with ha | rfl
    · rw [ha, Option.toList_none, List.append_nil]
      exact fun hc => absurd hc uncommitted
    · exact fun _ => rfl
  · rw [failures_snoc, ht]
    rcases hf with hf | rfl
    · rw [hf, Option.toList_none, List.append_nil]
      exact fun hf => absurd hf unfailed
    · exact fun _ => rfl

theorem Inv.fits_after {state : CallState} (h : Inv identifier init log w)
    (hi : caller moment = i) (hp : (w.task i).Pending)
    (ht : w'.task = Function.update w.task i state)
    (known : Known identifier (log ++ [moment]) w' i state)
    (ha : acknowledged moment = none ∨ state = .committed)
    (hf : failure moment = none ∨ state = .failed)
    (hh : ∀ j, j ≠ i → w.holder = some j → w'.holder = some j ∧ w'.value = w.value) (j : Nat) :
    Fits identifier (log ++ [moment]) w' j := by
  by_cases hj : j = i
  · subst hj
    have hs : w'.task j = state := by rw [ht, Function.update_self]
    exact (h.fits j).extend hp hs known ha hf
  · have hs : w'.task j = w.task j := by rw [ht, Function.update_of_ne hj]
    exact (h.fits j).frame hs (hi ▸ Ne.symm hj) (hh j hj)

/-- What was confirmed stays so, and the moment adds at most a step that is confirmed. -/
theorem Inv.confirmed_snoc {hashes : List Hash} (h : Inv identifier init log w)
    (now : ∀ i hashes, moment = .event (.returned i (.ok hashes)) →
      ∃ hash, hashes = [hash] ∧ Confirmed (movesOf i log) hash)
    (hr : .event (.returned i (.ok hashes)) ∈ log ++ [moment]) :
    ∃ hash, hashes = [hash] ∧ Confirmed (movesOf i (log ++ [moment])) hash := by
  have before : ∃ hash, hashes = [hash] ∧ Confirmed (movesOf i log) hash := by
    rcases List.mem_append.mp hr with hr | hr
    · exact h.confirmed i hashes hr
    · exact now i hashes (List.mem_singleton.mp hr).symm
  obtain ⟨hash, one, mined⟩ := before
  exact ⟨hash, one, mined.mono (movesOf_subset i moment)⟩

/-- A moment at which no call is told that it was committed. -/
theorem Inv.goes_on {state : CallState} (h : Inv identifier init log w) (hi : caller moment = i)
    (hp : (w.task i).Pending) (ht : w'.task = Function.update w.task i state)
    (hv : w'.value = w.value) (known : Known identifier (log ++ [moment]) w' i state)
    (ha : acknowledged moment = none) (hf : failure moment = none ∨ state = .failed)
    (hh : ∀ j, j ≠ i → w.holder = some j → w'.holder = some j) :
    Inv identifier init (log ++ [moment]) w' where
  fits := h.fits_after hi hp ht known (Or.inl ha) hf fun j hj ho => ⟨hh j hj ho, hv⟩
  once := by
    rw [commits_snoc, ha, Option.toList_none, List.append_nil]
    exact h.once
  folds := hv ▸ h.folds.frame ha
  confirmed _ _ := h.confirmed_snoc fun i hashes he => by
    subst he
    cases ha

/-- A moment at which a call is told that it was committed. -/
theorem Inv.commit (h : Inv identifier init log w) (hi : caller moment = i)
    (hp : (w.task i).Pending) (ht : w'.task = Function.update w.task i .committed)
    (hv : w'.value = w.value.commit identifier t.channel)
    (ha : acknowledged moment = some i) (hf : failure moment = none)
    (alone : ∀ j, j ≠ i → w.holder ≠ some j) (attempted : Attempted (log ++ [moment]) i a)
    (hc : w.value.channel identifier = .ok c) (step : c.transition a.change a.block = .ok t)
    (confirmed : ∀ j hashes, moment = .event (.returned j (.ok hashes)) →
      ∃ hash, hashes = [hash] ∧ Confirmed (movesOf j log) hash) :
    Inv identifier init (log ++ [moment]) w' where
  fits := h.fits_after hi hp ht trivial (Or.inr rfl) (Or.inl hf)
    fun j hj ho => absurd ho (alone j hj)
  once := by
    rw [commits_snoc, ha]
    refine List.nodup_append.mpr ⟨h.once, by simp, ?_⟩
    rintro x hx y hy rfl
    have earlier : i ∈ commits log := List.mem_singleton.mp hy ▸ hx
    exact ((h.fits i).not_over hp).1 earlier
  folds := hv ▸ h.folds.commit ha attempted hc step
  confirmed _ _ := h.confirmed_snoc confirmed

/-! ## The steps -/

/-- A submission that ends has failed, or its step was taken from the channel as it is. -/
theorem Inv.concluded {answer : Option (Except ServiceError (Channel × List Hash))}
    {result : Except ServiceError (List Hash)} (h : Inv identifier init log w)
    (hi : w.task i = .submitting change d) (ends : Ends d answer)
    (hr : w.value.conclude identifier change answer = (result, service)) :
    (∃ e, result = .error e ∧ service = w.value) ∨
      ∃ hashes block c t, result = .ok hashes ∧
        Attempted (log ++ [.event (.returned i result)]) i ⟨change, block⟩ ∧
        w.value.channel identifier = .ok c ∧ c.transition change block = .ok t ∧
        service = w.value.commit identifier t.channel ∧
        ∃ hash, hashes = [hash] ∧ Confirmed (movesOf i log) hash := by
  obtain ⟨-, invoked, c, hc, path⟩ := h.submitting hi
  refine (DisputeService.conclude_cases hr).imp_right ?_
  rintro ⟨c', hashes, rfl, rfl, rfl⟩
  cases ends
  obtain ⟨block, rest, t, he, ht, rfl, confirmed⟩ := Channel.submit_returns path
  refine ⟨hashes, block, c, t, rfl, Or.inr ⟨List.mem_append_left _ invoked, ?_⟩, hc, ht, rfl,
    confirmed⟩
  rw [movesOf_other rfl]
  exact ⟨rest, he.symm⟩

/-- **Every step keeps the invariant.** -/
theorem Inv.step (h : Inv identifier init log w) (step : Step identifier w moment w') :
    Inv identifier init (log ++ [moment]) w' := by
  cases step with
  | @invoke i call hi =>
    have unmoved : movesOf i log = [] := by
      have known := (h.fits i).known
      rwa [hi] at known
    have known : Known identifier (log ++ [.event (.invoked i call)]) (w.put i (.waiting call)) i
        (.waiting call) := by
      refine ⟨List.mem_append_right _ (List.mem_singleton_self _), ?_⟩
      exact (movesOf_other rfl).trans unmoved
    exact h.goes_on rfl (hi ▸ trivial) rfl rfl known rfl (Or.inl rfl) fun _ _ ho => ho
  | @start i change c hi free hc =>
    obtain ⟨invoked, unmoved⟩ := h.waiting hi
    refine h.goes_on (i := i) rfl (hi ▸ trivial) rfl rfl ?_ rfl (Or.inl rfl)
      fun _ _ ho => nomatch free.symm.trans ho
    refine ⟨rfl, List.mem_append_left _ invoked, c, hc, ?_⟩
    rw [movesOf_other rfl, unmoved]
    exact .nil
  | @move i change d d' m hi goes =>
    obtain ⟨holder, invoked, c, hc, path⟩ := h.submitting hi
    refine h.goes_on (i := i) rfl (hi ▸ trivial) rfl rfl ?_ rfl (Or.inl rfl) fun _ _ ho => ho
    refine ⟨holder, List.mem_append_left _ invoked, c, hc, ?_⟩
    rw [movesOf_moved]
    exact path.snoc goes
  | @conclude i _ _ _ _ _ hi ends hr =>
    -- The submission is the holder, so that nothing else is under way.
    have alone : ∀ j, j ≠ i → w.holder ≠ some j := by
      rw [(h.submitting hi).1]
      exact fun j hj he => hj (Option.some.inj he).symm
    rcases h.concluded hi ends hr with
      ⟨e, rfl, rfl⟩ | ⟨hashes, block, c, t, rfl, attempted, hc, ht, rfl, confirmed⟩
    · exact h.goes_on (i := i) rfl (hi ▸ trivial) rfl rfl trivial rfl (Or.inr rfl)
        fun j hj ho => absurd ho (alone j hj)
    · refine h.commit rfl (hi ▸ trivial) rfl rfl rfl rfl alone attempted hc ht ?_
      intro j hashes' hr
      cases hr
      exact confirmed
  | @observe i change block _ _ hi free hs =>
    obtain ⟨c, t, hc, ht, rfl, rfl⟩ := DisputeService.applySeen_eq_ok_iff.mp hs
    have invoked := List.mem_append_left [.event (.observed i (.ok t.channel.status))]
      (h.waiting hi).1
    have attempted : Attempted _ i ⟨change, block⟩ := Or.inl invoked
    exact h.commit rfl (hi ▸ trivial) rfl rfl rfl rfl (fun _ _ ho => nomatch free.symm.trans ho)
      attempted hc ht fun _ _ he => nomatch he
  | @refuse i _ _ _ hi free hs =>
    exact h.goes_on (i := i) rfl (hi ▸ trivial) rfl rfl trivial rfl (Or.inr rfl) fun _ _ ho => ho
  | @drop i _ hi =>
    exact h.goes_on (i := i) rfl (hi ▸ trivial) rfl rfl trivial rfl (Or.inr rfl) fun _ _ ho => ho
  | @interrupt i _ _ hi awaits =>
    exact h.goes_on (i := i) rfl (hi ▸ trivial) rfl rfl trivial rfl (Or.inr rfl)
      fun j hj ho => (freed_holder_iff hj).mpr ho

theorem inv_fresh (h : service.channel identifier = .ok init) :
    Inv identifier init [] (fresh service) where
  fits _ := ⟨rfl, (nomatch ·), (nomatch ·)⟩
  once := .nil
  folds := ⟨[], .nil, rfl, h⟩
  confirmed _ _ := (nomatch ·)

theorem inv_of_run (hs : service.channel identifier = .ok init)
    (h : Run identifier (fresh service) log w) : Inv identifier init log w := by
  induction h with
  | nil => exact inv_fresh hs
  | snoc _ step ih => exact ih.step step

/-- **One step after the other.** A step leaves the disputes as they are, or it tells one call that
it was committed and takes its step from the channel as it is. -/
theorem Inv.value_cases (h : Inv identifier init log w) (step : Step identifier w moment w') :
    acknowledged moment = none ∧ w'.value = w.value ∨
      ∃ i a c t, acknowledged moment = some i ∧ Attempted (log ++ [moment]) i a ∧
        w.value.channel identifier = .ok c ∧ c.transition a.change a.block = .ok t ∧
        w'.value = w.value.commit identifier t.channel := by
  cases step with
  | invoke | start | move | refuse | drop | interrupt => exact Or.inl ⟨rfl, rfl⟩
  | @conclude i change _ _ _ _ hi ends hr =>
    rcases h.concluded hi ends hr with
      ⟨e, rfl, rfl⟩ | ⟨hashes, block, c, t, rfl, attempted, hc, ht, rfl, -⟩
    · exact Or.inl ⟨rfl, rfl⟩
    · exact Or.inr ⟨i, ⟨change, block⟩, c, t, rfl, attempted, hc, ht, rfl⟩
  | @observe i change block _ _ hi free hs =>
    obtain ⟨c, t, hc, ht, rfl, rfl⟩ := DisputeService.applySeen_eq_ok_iff.mp hs
    have invoked := (h.waiting hi).1
    exact Or.inr ⟨i, ⟨change, block⟩, c, t, rfl, Or.inl (List.mem_append_left _ invoked), hc, ht,
      rfl⟩

/-! ## What the runs have in common -/

/-- The calls of a run that starts with the given channel, one after the other. -/
structure Linearized (identifier : Hash) (init : Channel) (log : List (Moment CallEvent))
    (w : Docket) : Prop where
  /-- The channel is what the committed calls make of it, in the order of their commits. -/
  folds : Folds identifier init log w.value
  once : (commits log).Nodup
  failed : ∀ i, i ∈ failures log → i ∉ commits log
  /-- What is under way works on the channel as it is. -/
  current : ∀ i change d, w.task i = .submitting change d →
    w.holder = some i ∧ ∃ c, w.value.channel identifier = .ok c ∧
      Path (c.submit w.value.key change).run (movesOf i log) d
  /-- A call is told that it was committed exactly when it is. -/
  next : ∀ moment w', Step identifier w moment w' →
    acknowledged moment = none ∧ w'.value = w.value ∨
      ∃ i a c t, acknowledged moment = some i ∧ Attempted (log ++ [moment]) i a ∧
        w.value.channel identifier = .ok c ∧ c.transition a.change a.block = .ok t ∧
        w'.value = w.value.commit identifier t.channel
  /-- A step of our own that succeeds returns the hash of its one transaction. -/
  confirmed : ∀ i hashes, .event (.returned i (.ok hashes)) ∈ log →
    ∃ hash, hashes = [hash] ∧ Confirmed (movesOf i log) hash

/-- **Calls on one dispute are atomic and linearizable**, whatever they are answered and whenever
they are dropped or their time is over. -/
theorem linearized_of_run (hs : service.channel identifier = .ok init)
    (h : Run identifier (fresh service) log w) : Linearized identifier init log w := by
  have inv := inv_of_run hs h
  refine ⟨inv.folds, inv.once, ?_, ?_, fun _ _ => inv.value_cases, inv.confirmed⟩
  · intro i hf hc
    cases ((inv.fits i).failed hf).symm.trans ((inv.fits i).committed hc)
  · intro i change d hi
    obtain ⟨holder, -, stored⟩ := inv.submitting hi
    exact ⟨holder, stored⟩

/-! ## Two closes at once -/

theorem commits_moves (i : Nat) (moves : List Move) : commits (moves.map (.moved i)) = [] := by
  induction moves with
  | nil => rfl
  | cons m rest ih => exact ih

theorem failures_moves (i : Nat) (moves : List Move) : failures (moves.map (.moved i)) = [] := by
  induction moves with
  | nil => rfl
  | cons m rest ih => exact ih

theorem Run.moves {moves : List Move} (h : Run identifier w₀ log w)
    (hi : w.task i = .submitting change d) (path : Path d moves d') :
    Run identifier w₀ (log ++ moves.map (.moved i)) (w.put i (.submitting change d')) := by
  induction path with
  | nil => simpa [put_self hi] using h
  | snoc _ goes ih =>
    have step := ih.snoc (.move put_task goes)
    rw [put_put] at step
    simpa using step

end Docket

namespace Docket.Sample

open PaymentChannel.Sample

theorem address_key : key.address = first := by decide +kernel

def service : DisputeService := ⟨key, {}, [(identifier.channel, channel)]⟩

/-- The channel after the first close. -/
def closed : Channel := channel.afterClose .partner none 10

theorem transition_close : channel.transition close.change 10 =
    .ok ⟨closed, [.sendClose 10 identifier second none]⟩ := by
  have hs : channel.Step 10 close.change ⟨_, _⟩ := .close .partner none (by decide) (by simp)
  exact hs.transition_eq (by decide)

theorem check_close : (ContractCall.close identifier second none).check key.address
    identifier.tokenNetwork .mainnet 10 = .ok () := by
  rw [address_key]
  decide

/-- The first close is confirmed, the second one finds the channel closed. -/
theorem run_closes : ∃ log w, Run identifier.channel (fresh service) log w ∧
    commits log = [0] ∧ failures log = [1] := by
  have called : (Event.sendClose 10 identifier second none).contractCall closed =
      .ok (.close identifier second none) := rfl
  obtain ⟨moves, handled⟩ := Event.handle_succeeds called check_close .zero
  have submitted : Returns (channel.submit key close.change)
      (.heard .blockNumber (.ok (10 : BlockNumber)) :: moves) (closed, [.zero]) :=
    Channel.submit_returns_iff.mpr ⟨10, moves, _, .zero, rfl, transition_close, handled, rfl⟩
  have refused : closed.transition close.change 10 =
      .error (.validation (.alreadyClosed .closed)) := rfl
  have invoked : Run identifier.channel (fresh service)
      [.event (.invoked 0 (.submit close.change))] _ :=
    Run.snoc .nil (.invoke (.submit close.change) rfl)
  have invoked' := invoked.snoc (.invoke (i := 1) (.submit close.change) rfl)
  have started := invoked'.snoc (.start (i := 0) (c := channel) rfl rfl rfl)
  have concluded := (started.moves put_task submitted).snoc (.conclude put_task (.done _) rfl)
  have started' := concluded.snoc (.start (i := 1) (c := closed) rfl rfl rfl)
  have concluded' := (started'.moves put_task (Channel.submit_refused refused)).snoc
    (.conclude put_task (.done _) rfl)
  refine ⟨_, _, concluded', ?_, ?_⟩
  · simp only [commits_append, commits_moves]
    rfl
  · simp only [failures_append, failures_moves]
    rfl

theorem linearized_sample : ∃ log w, Run identifier.channel (fresh service) log w ∧
    commits log = [0] ∧ failures log = [1] ∧ Linearized identifier.channel channel log w := by
  obtain ⟨log, w, run, committed, failed⟩ := run_closes
  exact ⟨log, w, run, committed, failed, linearized_of_run rfl run⟩

end Docket.Sample

end PaymentChannel
