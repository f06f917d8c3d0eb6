import PaymentChannel.Proofs.Client.Line

/-!
# A client that announces its connections

The signals of a client fire once for every dial that succeeds, with the connection in place.  What
the callers do to the signals and what anybody else does to them is one run of the registry.

* `Line.signalsOf`, `Line.signals_of_run` : the run of the registry.
* `Line.Announced`, `Line.announced_of_run` : **signals fire once at most, and only for a
  reconnect.**
-/

namespace PaymentChannel

variable {κ : Type}

/-- What an entry does to the signals. -/
def LineEntry.event? : LineEntry κ → Option SignalEvent
  | did _ (.notified count) => some (.notified count)
  | signalled event => some event
  | _ => none

theorem LineEntry.event?_eq_notified {entry : LineEntry κ} {count : Nat}
    (h : entry.event? = some (.notified count)) :
    entry = .signalled (.notified count) ∨ ∃ i, entry = .did i (.notified count) := by
  cases entry with
  | signalled event =>
    cases h
    exact Or.inl rfl
  | did i deed =>
    cases deed with
    | notified n =>
      cases h
      exact Or.inr ⟨i, rfl⟩
    | asked | heard | dialed | rested => cases h
  | called | entered | returned | dropped => cases h

namespace Line

variable {limit : Option Nat} {w w' : Line κ} {i j : Nat} {entry : LineEntry κ}
  {log : List (LineEntry κ)} {client : RedialingClient κ} {errand : Errand}
  {past' future' : List SignalEvent} {event : SignalEvent} {c : κ}

def signalsOf (log : List (LineEntry κ)) : List SignalEvent := log.filterMap (·.event?)

theorem signalsOf_append {log' : List (LineEntry κ)} :
    signalsOf (log ++ log') = signalsOf log ++ signalsOf log' := List.filterMap_append

theorem signalsOf_eq_append_cons (h : signalsOf log = past' ++ event :: future') :
    ∃ past entry future, log = past ++ entry :: future ∧ signalsOf past = past' ∧
      LineEntry.event? entry = some event := by
  obtain ⟨early, rest, rfl, hp, hr⟩ := List.filterMap_eq_append_iff.mp h
  obtain ⟨idle, entry, future, rfl, hi, he, -⟩ := List.filterMap_eq_cons_iff.mp hr
  refine ⟨early ++ idle, entry, future, (List.append_assoc ..).symm, ?_, he⟩
  rw [signalsOf_append, signalsOf, hp, signalsOf, List.filterMap_eq_nil_iff.mpr hi, List.append_nil]

theorem start_signals (errand : Errand) (client : RedialingClient κ) :
    (errand.start client).1.signals = client.signals := by
  rcases errand.start_cases client with ⟨_, c, -, -, he⟩ | he <;> rw [he]

/-- What a step does to the signals. -/
theorem Step.signals (step : Step limit w entry w') :
    (entry.event? = none ∧ w'.value.client.signals = w.value.client.signals) ∨
      ∃ event, entry.event? = some event ∧
        w.value.client.signals.Step event w'.value.client.signals := by
  cases step with
  | call | leave | drop | interrupt => exact Or.inl ⟨rfl, rfl⟩
  | enter => exact Or.inl ⟨rfl, start_signals _ _⟩
  | signal h => exact Or.inr ⟨_, rfl, h⟩
  | work hi works =>
    cases works with
    | ask | rest | establish => exact Or.inl ⟨rfl, rfl⟩
    | resume | finish => exact Or.inr ⟨_, rfl, .notify⟩
    | retry answered =>
      obtain ⟨-, rfl⟩ := RedialingClient.answered_eq_none_iff.mp answered
      exact Or.inl ⟨rfl, rfl⟩
    | answer answered =>
      obtain ⟨-, rfl, -⟩ := RedialingClient.answered_eq_some_iff.mp answered
      exact Or.inl ⟨rfl, rfl⟩
    | fail dialed =>
      obtain ⟨-, rfl, -⟩ := RedialingClient.dialed_error_eq_again_iff.mp dialed
      exact Or.inl ⟨rfl, rfl⟩
    | giveUp dialed =>
      obtain ⟨-, rfl, -⟩ := RedialingClient.dialed_error_eq_gaveUp_iff.mp dialed
      exact Or.inl ⟨rfl, rfl⟩

/-- Whatever callers and others do, the signals see it as one run. -/
theorem signals_of_run (h : Run limit client log w) (fresh : client.signals = .empty) :
    Logged SignalRegistry.Step .empty (signalsOf log) w.value.client.signals := by
  induction h with
  | nil =>
    show Logged _ _ _ client.signals
    rw [fresh]
    exact .nil
  | snoc _ step ih =>
    rw [signalsOf, filterMap_snoc]
    rcases step.signals with ⟨none, same⟩ | ⟨event, some, next⟩
    · rw [none, same, Option.toList_none, List.append_nil]
      exact ih
    · rw [some]
      exact ih.snoc next

/-- Between a dial that has succeeded and its signals. -/
theorem announcing_of_last {before : List (Nat × Deed κ)} (h : Run limit client log w)
    (hd : doings log = before ++ [(i, .dialed (.ok c))]) :
    ∃ errand, w.task i = .working errand (.announcing c) := by
  rcases since_of_last h hd trivial with ⟨errand, progress, hi, hs⟩ | ⟨ask, -⟩
  · cases since_eq_dialed_iff.mp hs
    exact ⟨errand, hi⟩
  · cases ask

/-- What becomes of signals, and when a client fires them. -/
structure Announced (limit : Option Nat) (log : List (LineEntry κ)) (w : Line κ) : Prop where
  singleFire : SignalRegistry.SingleFire (signalsOf log) w.value.client.signals
  /-- A signal fires for a notification, and the client notifies for a dial that has succeeded. -/
  fires : ∀ past name signal future, log = past ++ .signalled (.registered name signal) :: future →
    w.value.client.signals.state? signal = some .fired →
      ∃ before entry after count, future = before ++ entry :: after ∧
        (∀ existed, .signalled (.retired name existed) ∉ before) ∧
        (entry = .signalled (.notified count) ∨ ∃ i c earlier, entry = .did i (.notified count) ∧
          doings (past ++ .signalled (.registered name signal) :: before) =
            earlier ++ [(i, .dialed (.ok c))])
  /-- Next after a dial that has succeeded, its caller fires the signals. -/
  follows : ∀ past i c j deed future,
    doings log = past ++ (i, .dialed (.ok c)) :: (j, deed) :: future →
      j = i ∧ ∃ count, deed = .notified count
  /-- Right before the signals fire, a dial has succeeded. -/
  preceded : ∀ past i count future, doings log = past ++ (i, .notified count) :: future →
    ∃ earlier c, past = earlier ++ [(i, .dialed (.ok c))]
  /-- From the dial up to the signals, the connection is in place. -/
  inPlace : ∀ past i c, doings log = past ++ [(i, .dialed (.ok c))] →
    w.value.client.connection = some c ∧ w.value.client.status = .connected
  /-- The caller can fire the signals. -/
  due : ∀ past i c, doings log = past ++ [(i, .dialed (.ok c))] →
    ∃ count w', Step limit w (.did i (.notified count)) w'
  /-- The caller can do nothing else, and it cannot be dropped either. -/
  only : ∀ past i c, doings log = past ++ [(i, .dialed (.ok c))] →
    ∀ entry w', Step limit w entry w' → entry.about = some i →
      ∃ count, entry = .did i (.notified count)

/-- **Signals fire once at most, and only for a reconnect.** -/
theorem announced_of_run (opened : client.Opened) (h : Run limit client log w) :
    Announced limit log w := by
  have hc : client.Coherent := opened.truthful.coherent
  have inv := inv_of_run hc h
  have singleFire := SignalRegistry.singleFire_of_run (signals_of_run h opened.signals_eq)
  have preceded : ∀ past i count future, doings log = past ++ (i, .notified count) :: future →
      ∃ earlier c, past = earlier ++ [(i, .dialed (.ok c))] := by
    intro past i count future hd
    obtain ⟨earlier, d, rfl, closes⟩ := Line.preceded hc h hd trivial
    cases closes
    exact ⟨earlier, _, rfl⟩
  constructor
  case singleFire => exact singleFire
  case preceded => exact preceded
  case fires =>
    rintro past name signal future rfl fired
    have split : signalsOf (past ++ .signalled (.registered name signal) :: future) =
        signalsOf past ++ .registered name signal :: signalsOf future := List.filterMap_append
    obtain ⟨before', count, after', he, kept⟩ := (singleFire.fired _ _ _ _ split).mp fired
    obtain ⟨before, entry, after, rfl, rfl, hn⟩ := signalsOf_eq_append_cons he
    refine ⟨before, entry, after, count, rfl, fun existed hm => ?_, ?_⟩
    · exact kept existed (List.mem_filterMap.mpr ⟨_, hm, rfl⟩)
    · rcases LineEntry.event?_eq_notified hn with rfl | ⟨i, rfl⟩
      · exact Or.inl rfl
      · have placed : doings (past ++ .signalled (.registered name signal) ::
            (before ++ .did i (.notified count) :: after)) =
              doings (past ++ .signalled (.registered name signal) :: before) ++
                (i, .notified count) :: doings after := by
          rw [← List.cons_append, ← List.append_assoc]
          exact List.filterMap_append
        obtain ⟨earlier, c, hd⟩ := preceded _ _ _ _ placed
        exact Or.inr ⟨i, c, earlier, rfl, hd⟩
  case follows =>
    intro past i c j deed future hd
    rcases Line.follows hc h hd trivial with ⟨own, closes⟩ | ⟨ask, -⟩
    · cases closes
      exact ⟨own, _, rfl⟩
    · cases ask
  case inPlace =>
    intro past i c hd
    obtain ⟨errand, hi⟩ := announcing_of_last h hd
    obtain ⟨-, -, -, -, agrees⟩ := inv.working hi
    exact agrees
  case due =>
    intro past i c hd
    obtain ⟨errand, hi⟩ := announcing_of_last h hd
    cases errand with
    | call request => exact ⟨_, _, .work hi .resume⟩
    | redial => exact ⟨_, _, .work hi .finish⟩
  case only =>
    intro past i c hd entry w' step own
    obtain ⟨errand, hi⟩ := announcing_of_last h hd
    cases step with
    | signal => cases own
    | call _ hj | enter hj | drop hj | leave hj =>
      cases own
      cases hj.symm.trans hi
    | interrupt hj awaits =>
      cases own
      cases hj.symm.trans hi
      cases awaits
    | work hj works =>
      cases own
      cases hj.symm.trans hi
      cases works.closes rfl
      exact ⟨_, rfl⟩

theorem announced_sample : ∃ w, Run (some 2) .unconnected Sample.entries w ∧
    Announced (some 2) Sample.entries w := by
  obtain ⟨w, run⟩ := Sample.run_entries
  exact ⟨w, run, announced_of_run .unconnected run⟩

end Line

end PaymentChannel
