import Mathlib.Data.List.Find
import PaymentChannel.Proofs.Channel.Invariant
import PaymentChannel.Proofs.Channel.Replay
import PaymentChannel.Proofs.Dispute.Docket
import PaymentChannel.Proofs.Logged

/-!
# All disputes of one account

States of channels are registered one after the other, and any number of calls work on the disputes
that this leads to.  A dispute goes by the channel identifier, the last part of the name of a
channel.

* `Caseload` : the disputes, and for each one who holds the channel and the calls on it.
* `Caseload.Step`, `Caseload.Run` : what can happen next, and what has happened.
* `Caseload.founder` : the state that was registered first under a channel identifier.
* `Caseload.Inv` : a dispute is what its own calls make of its founder.  `Caseload.inv_of_run` :
  every run keeps it.
* `Caseload.OwnFounder` : a channel identifier was registered first under the name of the state.
* `Caseload.Separate`, `Caseload.separate_of_run` : **such a state has the dispute under its name,
  and disputes under different channel identifiers do not touch each other**, whatever else is
  registered.
-/

namespace PaymentChannel

/-! ## What a call leaves alone -/

namespace DisputeService

variable {service service' : DisputeService} {identifier other : Hash} {c : Channel}
  {existing : Bool}

theorem channel_eq_error_iff {e : ServiceError} :
    service.channel identifier = .error e ↔
      service.channels.lookup identifier = none ∧ e = .channelNotFound identifier := by
  unfold channel
  cases service.channels.lookup identifier <;> simp [eq_comm]

theorem channel_commit_of_ne (h : other ≠ identifier) (c : Channel) :
    (service.commit identifier c).channel other = service.channel other := by
  have same : (service.commit identifier c).channels.lookup other =
      service.channels.lookup other := by
    unfold commit
    dsimp only
    induction service.channels with
    | nil => rfl
    | cons entry rest ih =>
      obtain ⟨name, d⟩ := entry
      rw [List.map_cons]
      split
      · next he =>
        have ne : (other == name) = false := beq_false_of_ne fun hn => h (hn.trans he)
        have ne' : (other == identifier) = false := beq_false_of_ne h
        rw [List.lookup_cons, List.lookup_cons, ne, ne', ih]
      · rw [List.lookup_cons, List.lookup_cons, ih]
  unfold channel
  rw [same]

/-- A state is registered under a free identifier, or nothing changes. -/
theorem register_cases (h : service.register c = (existing, service')) :
    (existing = true ∧ service' = service ∧
      ∃ d, service.channel c.identifier.channel = .ok d) ∨
    (existing = false ∧ service'.key = service.key ∧
      service.channel c.identifier.channel = .error (.channelNotFound c.identifier.channel) ∧
      service'.channel c.identifier.channel = .ok c ∧
      ∀ other, other ≠ c.identifier.channel → service'.channel other = service.channel other) := by
  unfold register at h
  split at h
  · next d hd =>
    cases h
    exact .inl ⟨rfl, rfl, d, channel_eq_ok_iff.mpr hd⟩
  · next free =>
    cases h
    refine .inr ⟨rfl, rfl, channel_eq_error_iff.mpr ⟨free, rfl⟩, ?_, fun other ho => ?_⟩
    · rw [channel_eq_ok_iff, List.lookup_append, free]
      simp
    · have ne : (other == c.identifier.channel) = false := beq_false_of_ne ho
      unfold channel
      rw [List.lookup_append, List.lookup_cons, ne, List.lookup_nil, Option.or_none]

end DisputeService

namespace Docket

variable {identifier : Hash} {init : Channel} {w w' : Docket} {log : List (Moment CallEvent)}
  {moment : Moment CallEvent} {service : DisputeService}

/-- A step commits to the channel that the docket is about, if to any. -/
theorem Step.value_eq (h : Step identifier w moment w') :
    w'.value = w.value ∨ ∃ c, w'.value = w.value.commit identifier c := by
  cases h with
  | invoke | start | move | refuse | drop | interrupt => exact .inl rfl
  | conclude _ _ hr =>
    rcases DisputeService.conclude_cases hr with ⟨_, -, rfl⟩ | ⟨c, _, -, -, rfl⟩
    · exact .inl rfl
    · exact .inr ⟨c, rfl⟩
  | observe _ _ hs =>
    obtain ⟨_, t, -, -, -, rfl⟩ := DisputeService.applySeen_eq_ok_iff.mp hs
    exact .inr ⟨t.channel, rfl⟩

/-- The invariant is about the one channel and the key. -/
theorem Inv.congr (h : Inv identifier init log w)
    (hc : service.channel identifier = w.value.channel identifier)
    (hk : service.key = w.value.key) : Inv identifier init log { w with value := service } where
  fits i := by
    refine ⟨?_, (h.fits i).committed, (h.fits i).failed⟩
    have known := (h.fits i).known
    show Known identifier log _ i (w.task i)
    cases hs : w.task i with
    | submitting change d =>
      rw [hs] at known
      obtain ⟨holder, invoked, c, stored, path⟩ := known
      exact ⟨holder, invoked, c, hc.trans stored, hk ▸ path⟩
    | absent | waiting => rwa [hs] at known
    | committed | failed => trivial
  once := h.once
  folds := by
    obtain ⟨attempts, made, admitted, stored⟩ := h.folds
    exact ⟨attempts, made, admitted, hc.trans stored⟩
  confirmed := h.confirmed

end Docket

/-! ## Many dockets -/

/-- The disputes, and for each one who holds the channel and the calls on it. -/
structure Caseload where
  service : DisputeService
  holder : Hash → Option Nat
  task : Hash → Nat → CallState

inductive CaseEntry where
  /-- A state is registered.  The answer says whether there was a dispute already. -/
  | registered (channel : Channel) (existing : Bool)
  | called (identifier : Hash) (moment : Moment CallEvent)

namespace Caseload

variable {w w' : Caseload} {log past future : List CaseEntry} {entry : CaseEntry}
  {identifier other : Hash} {s t c init : Channel} {existing : Bool} {d : Docket}
  {moment : Moment CallEvent} {service : DisputeService}

def fresh (service : DisputeService) : Caseload := ⟨service, fun _ => none, fun _ _ => .absent⟩

/-- What concerns one dispute. -/
def docket (w : Caseload) (identifier : Hash) : Docket :=
  ⟨w.service, w.holder identifier, w.task identifier⟩

def enter (w : Caseload) (identifier : Hash) (d : Docket) : Caseload where
  service := d.value
  holder := Function.update w.holder identifier d.holder
  task := Function.update w.task identifier d.task

theorem docket_enter_self : (w.enter identifier d).docket identifier = d := by
  simp [docket, enter]

theorem docket_enter_of_ne (h : other ≠ identifier) :
    (w.enter identifier d).docket other = { w.docket other with value := d.value } := by
  simp [docket, enter, Function.update_of_ne h]

inductive Step (w : Caseload) : CaseEntry → Caseload → Prop
  | register {channel : Channel} {existing : Bool} {service : DisputeService}
      (h : w.service.register channel = (existing, service)) :
      Step w (.registered channel existing) { w with service }
  /-- Only a dispute that was registered can be called. -/
  | call {identifier : Hash} {c : Channel} {moment : Moment CallEvent} {d : Docket}
      (hc : w.service.channel identifier = .ok c)
      (step : Docket.Step identifier (w.docket identifier) moment d) :
      Step w (.called identifier moment) (w.enter identifier d)

/-- What has happened, and what it led to. -/
abbrev Run : Caseload → List CaseEntry → Caseload → Prop := Logged Step

/-! ## The log -/

def stateOf : CaseEntry → Option Channel
  | .registered channel _ => some channel
  | .called .. => none

/-- The registered states in the order of their registration. -/
def states (log : List CaseEntry) : List Channel := log.filterMap stateOf

/-- The state that was registered first under a channel identifier. -/
def founder (log : List CaseEntry) (identifier : Hash) : Option Channel :=
  (states log).find? (·.identifier.channel = identifier)

def momentOf (identifier : Hash) : CaseEntry → Option (Moment CallEvent)
  | .called name moment => if name = identifier then some moment else none
  | .registered .. => none

/-- What has happened to one dispute. -/
def momentsOf (identifier : Hash) (log : List CaseEntry) : List (Moment CallEvent) :=
  log.filterMap (momentOf identifier)

theorem states_snoc : states (log ++ [entry]) = states log ++ (stateOf entry).toList :=
  filterMap_snoc stateOf

theorem founder_of_call : founder (log ++ [.called identifier moment]) other = founder log other := by
  rw [founder, states_snoc]
  simp [founder, stateOf]

theorem founder_snoc (s : Channel) (existing : Bool) (identifier : Hash) :
    founder (log ++ [.registered s existing]) identifier =
      (founder log identifier).or (if s.identifier.channel = identifier then some s else none) := by
  rw [founder, states_snoc, List.find?_append]
  simp only [stateOf, Option.toList_some, List.find?_singleton, decide_eq_true_eq]
  rfl

theorem momentsOf_other (h : momentOf identifier entry = none) :
    momentsOf identifier (log ++ [entry]) = momentsOf identifier log := by
  simp [momentsOf, h]

theorem momentsOf_called : momentsOf identifier (log ++ [.called identifier moment]) =
    momentsOf identifier log ++ [moment] := by
  simp [momentsOf, momentOf]

theorem mem_founder (h : founder log identifier = some s) :
    s ∈ states log ∧ s.identifier.channel = identifier :=
  ⟨List.mem_of_find?_eq_some h, by simpa using List.find?_some h⟩

theorem exists_founder (h : s ∈ states log) :
    ∃ first, founder log s.identifier.channel = some first := by
  have found : (founder log s.identifier.channel).isSome := by
    rw [founder, List.find?_isSome]
    exact ⟨s, h, by simp⟩
  exact Option.isSome_iff_exists.mp found

/-! ## The invariant -/

/-- What is known of a dispute by its founder. -/
def Known (log : List CaseEntry) (w : Caseload) (identifier : Hash) : Option Channel → Prop
  | none => w.service.channel identifier = .error (.channelNotFound identifier) ∧
    w.docket identifier = .fresh w.service ∧ momentsOf identifier log = []
  | some init => Docket.Inv identifier init (momentsOf identifier log) (w.docket identifier)

def Inv (log : List CaseEntry) (w : Caseload) : Prop :=
  ∀ identifier, Known log w identifier (founder log identifier)

theorem Inv.founder_of_ok (h : Inv log w) (hc : w.service.channel identifier = .ok c) :
    ∃ init, founder log identifier = some init := by
  have known := h identifier
  cases hf : founder log identifier with
  | none =>
    rw [hf] at known
    cases hc.symm.trans known.1
  | some init => exact ⟨init, rfl⟩

theorem Inv.docket (h : Inv log w) (hf : founder log identifier = some init) :
    Docket.Inv identifier init (momentsOf identifier log) (w.docket identifier) := by
  have known := h identifier
  rwa [hf] at known

/-- What happens elsewhere leaves a dispute as it is. -/
theorem Known.frame {first : Option Channel} (h : Known log w identifier first)
    (hc : w'.service.channel identifier = w.service.channel identifier)
    (hk : w'.service.key = w.service.key)
    (hd : w'.docket identifier = { w.docket identifier with value := w'.service })
    (hm : momentOf identifier entry = none) : Known (log ++ [entry]) w' identifier first := by
  cases first with
  | none =>
    obtain ⟨missing, idle, silent⟩ := h
    refine ⟨hc.trans missing, ?_, (momentsOf_other hm).trans silent⟩
    rw [hd, idle]
    rfl
  | some init =>
    have kept : Docket.Inv identifier init _ _ := Docket.Inv.congr h hc hk
    rwa [← momentsOf_other hm, ← hd] at kept

theorem inv_fresh (service : DisputeService) (h : service.channels = []) :
    Inv [] (fresh service) := by
  intro identifier
  refine ⟨DisputeService.channel_eq_error_iff.mpr ⟨?_, rfl⟩, rfl, rfl⟩
  show service.channels.lookup identifier = none
  rw [h]
  rfl

/-- **Every step keeps the invariant.** -/
theorem Inv.step (h : Inv log w) (step : Step w entry w') : Inv (log ++ [entry]) w' := by
  intro identifier
  cases step with
  | @register s existing service hr =>
    rcases DisputeService.register_cases hr with
      ⟨rfl, rfl, d, hd⟩ | ⟨rfl, hk, free, stored, others⟩
    · -- The dispute has a founder already.
      obtain ⟨first, hf⟩ := h.founder_of_ok hd
      have same : founder (log ++ [.registered s true]) identifier = founder log identifier := by
        rw [founder_snoc]
        split
        · next he => rw [← he, hf, Option.some_or]
        · exact Option.or_none
      rw [same]
      exact (h identifier).frame rfl rfl rfl rfl
    · by_cases he : s.identifier.channel = identifier
      · subst he
        have known := h s.identifier.channel
        cases hf : founder log s.identifier.channel with
        | some init =>
          obtain ⟨attempts, -, -, hc⟩ := (h.docket hf).folds
          cases hc.symm.trans free
        | none =>
          rw [hf] at known
          obtain ⟨-, idle, silent⟩ := known
          have opened : ({ w with service } : Caseload).docket s.identifier.channel =
              .fresh service := congrArg (fun d : Docket => { d with value := service }) idle
          rw [founder_snoc, hf, Option.none_or, if_pos rfl]
          show Docket.Inv _ _ _ _
          rw [momentsOf_other rfl, silent, opened]
          exact Docket.inv_fresh stored
      · rw [founder_snoc, if_neg he, Option.or_none]
        exact (h identifier).frame (others identifier (Ne.symm he)) hk rfl rfl
  | @call name c moment d hc step =>
    rw [founder_of_call]
    by_cases he : name = identifier
    · subst he
      obtain ⟨init, hf⟩ := h.founder_of_ok hc
      have next := (h.docket hf).step step
      rw [hf]
      show Docket.Inv _ _ _ _
      rwa [docket_enter_self, momentsOf_called]
    · have keeps : d.value.channel identifier = w.service.channel identifier ∧
          d.value.key = w.service.key := by
        rcases step.value_eq with hv | ⟨c', hv⟩
        · rw [hv]
          exact ⟨rfl, rfl⟩
        · rw [hv]
          exact ⟨DisputeService.channel_commit_of_ne (Ne.symm he) c', rfl⟩
      exact (h identifier).frame keeps.1 keeps.2 (docket_enter_of_ne (Ne.symm he)) (if_neg he)

theorem inv_of_run (hs : service.channels = []) (h : Run (fresh service) log w) : Inv log w := by
  induction h with
  | nil => exact inv_fresh service hs
  | snoc _ step ih => exact ih.step step

/-- A dispute is called as its founder, and what its own calls make of it. -/
theorem Inv.dispute (h : Inv log w) (hf : founder log identifier = some init) :
    Docket.Folds identifier init (momentsOf identifier log) w.service ∧
      ∃ c, w.service.channel identifier = .ok c ∧ c.identifier = init.identifier ∧
        c.openBlock = init.openBlock := by
  have folds := (h.docket hf).folds
  obtain ⟨attempts, -, -, stored⟩ := id folds
  have terms := init.sameTerms_run attempts
  exact ⟨folds, _, stored, terms.identifier, terms.openBlock⟩

/-! ## Disputes side by side -/

/-- A step leaves a dispute alone: its channel, who holds it and the calls on it. -/
structure Untouched (identifier : Hash) (w w' : Caseload) : Prop where
  channel : w'.service.channel identifier = w.service.channel identifier
  holder : w'.holder identifier = w.holder identifier
  task : w'.task identifier = w.task identifier

theorem Inv.untouched (h : Inv log w) (hf : founder log identifier = some init)
    (step : Step w entry w') (hm : momentOf identifier entry = none) :
    Untouched identifier w w' := by
  cases step with
  | @register s existing service hr =>
    rcases DisputeService.register_cases hr with ⟨-, rfl, -⟩ | ⟨-, -, free, -, others⟩
    · exact ⟨rfl, rfl, rfl⟩
    · have taken : identifier ≠ s.identifier.channel := by
        rintro rfl
        obtain ⟨-, c, hc, -, -⟩ := h.dispute hf
        cases hc.symm.trans free
      exact ⟨others identifier taken, rfl, rfl⟩
  | @call name c moment d hc step =>
    have ne : identifier ≠ name := by
      rintro rfl
      simp [momentOf] at hm
    refine ⟨?_, Function.update_of_ne ne .., Function.update_of_ne ne ..⟩
    show d.value.channel identifier = w.service.channel identifier
    rcases step.value_eq with hv | ⟨c', hv⟩ <;> rw [hv]
    · rfl
    · exact DisputeService.channel_commit_of_ne ne c'

/-- The state that was registered first under a name. -/
def first (log : List CaseEntry) (name : CanonicalIdentifier) : Option Channel :=
  (states log).find? (·.identifier = name)

/-- What was registered first under the channel identifier of `s` has the name of `s`.  A state of
another name that comes later does no harm to `s`. -/
def OwnFounder (log : List CaseEntry) (s : Channel) : Prop :=
  ∀ init ∈ founder log s.identifier.channel, init.identifier = s.identifier

theorem OwnFounder.first_eq (h : OwnFounder log s)
    (hf : founder log s.identifier.channel = some init) : first log s.identifier = some init := by
  -- Whoever has the name has the channel identifier, so that nobody before the founder has it.
  obtain ⟨-, before, after, he, others⟩ := List.find?_eq_some_iff_append.mp hf
  refine List.find?_eq_some_iff_append.mpr
    ⟨decide_eq_true (h init hf), before, after, he, fun t ht => ?_⟩
  have ne : t.identifier.channel ≠ s.identifier.channel := by simpa using others t ht
  have unnamed : t.identifier ≠ s.identifier := fun hn => ne (congrArg (·.channel) hn)
  simpa using unnamed

/-- A registration meets a dispute exactly if the channel identifier was registered before. -/
theorem Inv.register_iff (h : Inv log w) (step : Step w (.registered s existing) w') :
    existing = true ↔ ∃ init, founder log s.identifier.channel = some init := by
  cases step with
  | register hr =>
    rcases DisputeService.register_cases hr with ⟨rfl, -, c, hc⟩ | ⟨rfl, -, free, -, -⟩
    · exact iff_of_true rfl (h.founder_of_ok hc)
    · refine iff_of_false Bool.false_ne_true ?_
      rintro ⟨init, hf⟩
      obtain ⟨-, c, hc, -, -⟩ := h.dispute hf
      cases hc.symm.trans free

/-- The disputes of the registered channels, side by side. -/
structure Separate (log : List CaseEntry) (w : Caseload) : Prop where
  /-- A registration is told whether the channel was registered before. -/
  answered : ∀ past s existing future, log = past ++ .registered s existing :: future →
    OwnFounder past s → (existing = true ↔ ∃ t ∈ states past, t.identifier = s.identifier)
  /-- The dispute of a state is named as the state, and keeps what was registered first. -/
  held : ∀ s ∈ states log, OwnFounder log s → ∃ init c, first log s.identifier = some init ∧
    w.service.channel s.identifier.channel = .ok c ∧ c.identifier = s.identifier ∧
    c.openBlock = init.openBlock ∧
    Docket.Folds s.identifier.channel init (momentsOf s.identifier.channel log) w.service
  /-- What is done to the dispute of one channel leaves the others alone. -/
  apart : ∀ s ∈ states log, ∀ t : Channel, s.identifier.channel ≠ t.identifier.channel →
    ∀ moment w', Step w (.called t.identifier.channel moment) w' →
      Untouched s.identifier.channel w w'
  /-- So does every registration. -/
  kept : ∀ s ∈ states log, ∀ t existing w', Step w (.registered t existing) w' →
    Untouched s.identifier.channel w w'

/-- **Distinct channels have separate disputes**, in every order of registrations and calls. -/
theorem separate_of_run {key : PrivateKey} {config : DisputeConfig}
    (h : Run (fresh (.ofConfig key config)) log w) : Separate log w := by
  have inv := inv_of_run rfl h
  refine ⟨?_, ?_, ?_, ?_⟩
  · intro past s existing future hl own
    obtain ⟨w₁, w₂, run, step, -⟩ := Logged.split h hl
    refine ((inv_of_run rfl run).register_iff step).trans ⟨?_, ?_⟩
    · rintro ⟨init, hf⟩
      exact ⟨init, (mem_founder hf).1, own init hf⟩
    · rintro ⟨t, ht, he⟩
      rw [← he]
      exact exists_founder ht
  · intro s hs own
    obtain ⟨init, hf⟩ := exists_founder hs
    obtain ⟨folds, c, hc, named, opened⟩ := inv.dispute hf
    exact ⟨init, c, own.first_eq hf, hc, named.trans (own init hf), opened, folds⟩
  · intro s hs t ne moment w' step
    obtain ⟨init, hf⟩ := exists_founder hs
    exact inv.untouched hf step (if_neg ne.symm)
  · intro s hs t existing w' step
    obtain ⟨init, hf⟩ := exists_founder hs
    exact inv.untouched hf step rfl

end Caseload

/-! ## Registrations that meet -/

namespace Caseload.Sample

open PaymentChannel.Sample Docket.Sample

/-- The sample channel under another channel identifier. -/
def neighbour : Channel := { channel with identifier := { identifier with channel := ⟨10⟩ } }

theorem applySeen_close {service : DisputeService}
    (h : service.channel identifier.channel = .ok channel) :
    service.applySeen identifier.channel close.change 10 =
      .ok (.closed, service.commit identifier.channel closed) :=
  DisputeService.applySeen_eq_ok_iff.mpr ⟨_, _, h, transition_close, rfl, rfl⟩

theorem call_docket {w : Caseload} {name : Hash} {c : Channel} {d d' : Docket}
    {moment : Moment CallEvent} (hd : w.docket name = d) (hc : w.service.channel name = .ok c)
    (step : Docket.Step name d moment d') : Step w (.called name moment) (w.enter name d') :=
  .call hc (hd ▸ step)

/-- The channel `s` was registered first, and nothing was done to its dispute. -/
structure Opened (s : Channel) (log : List CaseEntry) (w : Caseload) : Prop where
  run : Run (fresh (.ofConfig key {})) log w
  stored : w.service.channel s.identifier.channel = .ok s
  idle : w.docket s.identifier.channel = .fresh w.service

theorem opened (s : Channel) : ∃ w, Opened s [.registered s false] w :=
  ⟨_, .single (.register rfl), DisputeService.channel_eq_ok_iff.mpr List.lookup_cons_self, rfl⟩

theorem Opened.register {s : Channel} {log : List CaseEntry} {w : Caseload} (h : Opened s log w)
    (t : Channel) : ∃ existing w', Opened s (log ++ [.registered t existing]) w' := by
  obtain ⟨existing, service, hr⟩ :
      ∃ existing service, w.service.register t = (existing, service) := ⟨_, _, rfl⟩
  have step : Step w (.registered t existing) { w with service } := .register hr
  have inv := inv_of_run rfl h.run
  obtain ⟨init, hf⟩ := inv.founder_of_ok h.stored
  have idle : ({ w with service } : Caseload).docket s.identifier.channel = .fresh service :=
    congrArg (fun d : Docket => { d with value := service }) h.idle
  exact ⟨existing, _, h.run.snoc step, (inv.untouched hf step rfl).channel.trans h.stored, idle⟩

/-- The close of the sample channel is seen on the chain. -/
theorem Opened.closes {log : List CaseEntry} {w : Caseload} (h : Opened channel log w) :
    ∃ w₁ w₂, Run (fresh (.ofConfig key {})) (log ++ [.called identifier.channel
        (.event (.invoked 0 (.observe close.change 10)))]) w₁ ∧
      w₁.service.channel identifier.channel = .ok channel ∧
      Step w₁ (.called identifier.channel (.event (.observed 0 (.ok .closed)))) w₂ ∧
      w₂.service.channel identifier.channel = .ok closed := by
  have hc : w.service.channel identifier.channel = .ok channel := h.stored
  have invoke := call_docket h.idle hc (.invoke (i := 0) (.observe close.change 10) rfl)
  have waiting : (w.enter identifier.channel (Guarded.put (Docket.fresh w.service) 0
      (.waiting (.observe close.change 10)))).docket identifier.channel = _ := docket_enter_self
  have observe := call_docket waiting hc (.observe Guarded.put_task rfl (applySeen_close hc))
  exact ⟨_, _, h.run.snoc invoke, hc, observe, DisputeService.channel_commit hc closed⟩

end Caseload.Sample

namespace Caseload

open PaymentChannel.Sample Caseload.Sample Docket.Sample

/-- The states of `channel` and `neighbour` have the disputes under their names, although `moved`
meets the dispute of `channel`. -/
theorem separate_sample : ∃ log w, Run (fresh (.ofConfig key {})) log w ∧
    states log = [channel, neighbour, moved] ∧ OwnFounder log channel ∧
    OwnFounder log neighbour ∧ ¬OwnFounder log moved ∧
    channel.identifier.channel ≠ neighbour.identifier.channel ∧
    w.service.channel channel.identifier.channel = .ok closed ∧ Separate log w := by
  obtain ⟨w₀, h₀⟩ := opened channel
  obtain ⟨_, w₁, h₁⟩ := h₀.register neighbour
  obtain ⟨_, w₂, h₂⟩ := h₁.register moved
  obtain ⟨w₃, w₄, run, -, step, closed⟩ := h₂.closes
  have own : ∀ s ∈ [channel, neighbour], ∀ init ∈ [channel, neighbour, moved].find?
      (·.identifier.channel = s.identifier.channel), init.identifier = s.identifier := by decide
  have foreign : ¬∀ init ∈ [channel, neighbour, moved].find?
      (·.identifier.channel = moved.identifier.channel), init.identifier = moved.identifier := by
    decide
  exact ⟨_, w₄, run.snoc step, rfl, own channel (by simp), own neighbour (by simp), foreign,
    by decide, closed, separate_of_run (run.snoc step)⟩

/-- A channel that is registered again, opened at a later block, keeps the earlier block.  In
another token network it even shares the dispute: what is done to one changes the other. -/
theorem not_always_separate :
    ¬(∀ log w, Run (fresh (.ofConfig key {})) log w → ∀ s ∈ states log, ∃ c,
      w.service.channel s.identifier.channel = .ok c ∧ c.identifier = s.identifier ∧
        c.openBlock = s.openBlock) ∧
    ¬(∀ log w, Run (fresh (.ofConfig key {})) log w → ∀ s ∈ states log, ∀ t ∈ states log,
      s.identifier ≠ t.identifier → ∀ moment w',
        Step w (.called t.identifier.channel moment) w' →
          w'.service.channel s.identifier.channel = w.service.channel s.identifier.channel) := by
  constructor
  · intro claim
    obtain ⟨w₀, h₀⟩ := opened channel
    obtain ⟨_, w, h⟩ := h₀.register reopened
    obtain ⟨c, hc, -, later⟩ := claim _ w h.run reopened (by simp [states, stateOf])
    cases h.stored.symm.trans hc
    cases later
  · intro claim
    obtain ⟨w₀, h₀⟩ := opened channel
    obtain ⟨_, w, h⟩ := h₀.register moved
    obtain ⟨w₁, w₂, run, before, step, closed⟩ := h.closes
    have same := claim _ w₁ run channel (by simp [states, stateOf]) moved
      (by simp [states, stateOf]) (by decide) _ w₂ step
    cases (closed.symm.trans same).trans before

end Caseload

end PaymentChannel
