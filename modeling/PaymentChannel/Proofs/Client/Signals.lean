import Mathlib.Data.List.Nodup
import PaymentChannel.Client.Signal
import PaymentChannel.Proofs.Logged

/-!
# The fate of a signal

What becomes of a signal is decided by what comes first after its registration: a notification fires
it, the end of its name retires it.

* `SignalRegistry.Step` : what can be done with a registry.
* `SignalRegistry.fate` : what the rest of a log makes of a signal.
* `SignalRegistry.Waits` : a signal that nothing has happened to since it was registered.
* `SignalRegistry.Inv` : the waiting signals are these, and all signals have their fates.
  `SignalRegistry.inv_of_run` : every run keeps it.
* `SignalRegistry.SingleFire`, `SignalRegistry.singleFire_of_run` : **a signal fires once at most,
  and only for a notification.**
-/

namespace PaymentChannel

/-- What is done with a registry, and what it answers. -/
inductive SignalEvent where
  | registered (name : String) (signal : Nat)
  | retired (name : String) (existed : Bool)
  | notified (count : Nat)
  | queried (name : String) (found : Bool)
  | counted (count : Nat)
  deriving DecidableEq

namespace SignalRegistry

variable {r r' : SignalRegistry} {log past middle future : List SignalEvent} {e : SignalEvent}
  {name other : String} {signal s t count : Nat} {existed found : Bool}

inductive Step (r : SignalRegistry) : SignalEvent → SignalRegistry → Prop
  | register (name : String) :
      Step r (.registered name (r.register name).1) (r.register name).2
  | retire (name : String) : Step r (.retired name (r.retire name).1) (r.retire name).2
  | notify : Step r (.notified r.notifyAll.1) r.notifyAll.2
  | query (name : String) : Step r (.queried name (r.isRegistered name)) r
  | count : Step r (.counted r.size) r

/-! ## Fates -/

/-- What an event makes of a signal that waits under the name. -/
def effect (name : String) : SignalEvent → Option SignalState
  | .notified _ => some .fired
  | .retired other _ => if other = name then some .retired else none
  | .registered .. | .queried .. | .counted _ => none

/-- What becomes of a signal that was registered under the name. -/
def fate (name : String) (log : List SignalEvent) : SignalState :=
  (log.findSome? (effect name)).getD .pending

theorem effect_eq_fired_iff : effect name e = some .fired ↔ ∃ count, e = .notified count := by
  cases e with
  | retired other existed => simp [effect]
  | notified | registered | queried | counted => simp [effect]

theorem effect_eq_retired_iff :
    effect name e = some .retired ↔ ∃ existed, e = .retired name existed := by
  cases e with
  | retired other existed => simp [effect]
  | notified | registered | queried | counted => simp [effect]

theorem effect_eq_none_iff : effect name e = none ↔
    (∀ count, e ≠ .notified count) ∧ ∀ existed, e ≠ .retired name existed := by
  cases e with
  | retired other existed => simp [effect]
  | notified | registered | queried | counted => simp [effect]

theorem effect_ne_pending : effect name e ≠ some .pending := by
  cases e with
  | retired other existed => simp [effect]
  | notified | registered | queried | counted => simp [effect]

@[simp] theorem fate_retired_self : fate name [.retired name existed] = .retired := by
  simp [fate, effect]

theorem fate_retired_of_ne (h : other ≠ name) : fate name [.retired other existed] = .pending := by
  simp [fate, effect, h]

theorem fate_append_of_pending (h : fate name past = .pending) :
    fate name (past ++ future) = fate name future := by
  rw [fate] at h
  cases hp : past.findSome? (effect name) with
  | none => rw [fate, fate, List.findSome?_append, hp, Option.none_or]
  | some state =>
    rw [hp, Option.getD_some] at h
    obtain ⟨e, -, he⟩ := List.exists_of_findSome?_eq_some hp
    exact absurd (h ▸ he) effect_ne_pending

theorem fate_append_of_ne (h : fate name past ≠ .pending) :
    fate name (past ++ future) = fate name past := by
  rw [fate] at h
  cases hp : past.findSome? (effect name) with
  | none => exact absurd (by rw [hp]; rfl) h
  | some state => rw [fate, fate, List.findSome?_append, hp, Option.some_or]

theorem fate_eq_pending_iff : fate name log = .pending ↔ ∀ e ∈ log, effect name e = none := by
  rw [← List.findSome?_eq_none_iff, fate]
  cases h : log.findSome? (effect name) with
  | none => simp
  | some state =>
    obtain ⟨e, -, he⟩ := List.exists_of_findSome?_eq_some h
    have ne : state ≠ .pending := fun hs => effect_ne_pending (hs ▸ he)
    simp [ne]

/-- The first event that has an effect on the signal decides. -/
theorem fate_eq_iff {state : SignalState} (h : state ≠ .pending) : fate name log = state ↔
    ∃ past e future, log = past ++ e :: future ∧ effect name e = some state ∧
      ∀ x ∈ past, effect name x = none := by
  rw [← List.findSome?_eq_some_iff, fate]
  cases log.findSome? (effect name) with
  | none => simp [Ne.symm h]
  | some other => simp

/-- A signal fires for a notification that comes before every end of its name. -/
theorem fate_eq_fired_iff : fate name log = .fired ↔
    ∃ past count future, log = past ++ .notified count :: future ∧
      ∀ existed, .retired name existed ∉ past := by
  constructor
  · intro h
    obtain ⟨past, e, future, rfl, he, idle⟩ := (fate_eq_iff (by decide)).mp h
    obtain ⟨count, rfl⟩ := effect_eq_fired_iff.mp he
    refine ⟨past, count, future, rfl, fun existed hm => ?_⟩
    cases (idle _ hm).symm.trans (effect_eq_retired_iff.mpr ⟨existed, rfl⟩)
  · rintro ⟨past, count, future, rfl, kept⟩
    cases hp : fate name past with
    | pending =>
      rw [fate_append_of_pending hp]
      rfl
    | fired =>
      have decided : fate name past ≠ .pending := by rw [hp]; decide
      rw [fate_append_of_ne decided, hp]
    | retired =>
      obtain ⟨_, e, _, rfl, he, -⟩ := (fate_eq_iff (by decide)).mp hp
      obtain ⟨existed, rfl⟩ := effect_eq_retired_iff.mp he
      exact absurd (List.mem_append_right _ List.mem_cons_self) (kept existed)

/-- A signal is retired by an end of its name that comes before every notification. -/
theorem fate_eq_retired_iff : fate name log = .retired ↔
    ∃ past existed future, log = past ++ .retired name existed :: future ∧
      ∀ count, .notified count ∉ past := by
  constructor
  · intro h
    obtain ⟨past, e, future, rfl, he, idle⟩ := (fate_eq_iff (by decide)).mp h
    obtain ⟨existed, rfl⟩ := effect_eq_retired_iff.mp he
    exact ⟨past, existed, future, rfl, fun count hm => nomatch idle _ hm⟩
  · rintro ⟨past, existed, future, rfl, kept⟩
    cases hp : fate name past with
    | pending =>
      rw [fate_append_of_pending hp]
      simp [fate, effect]
    | fired =>
      obtain ⟨_, e, _, rfl, he, -⟩ := (fate_eq_iff (by decide)).mp hp
      obtain ⟨count, rfl⟩ := effect_eq_fired_iff.mp he
      exact absurd (List.mem_append_right _ List.mem_cons_self) (kept count)
    | retired =>
      have decided : fate name past ≠ .pending := by rw [hp]; decide
      rw [fate_append_of_ne decided, hp]

/-! ## Waiting signals -/

/-- The signal was registered under the name, and nothing has happened to it since. -/
def Waits (log : List SignalEvent) (name : String) (signal : Nat) : Prop :=
  ∃ past future, log = past ++ .registered name signal :: future ∧ fate name future = .pending

theorem Waits.mem (h : Waits log name signal) : .registered name signal ∈ log := by
  obtain ⟨past, future, rfl, -⟩ := h
  exact List.mem_append_right _ List.mem_cons_self

theorem waits_snoc_iff : Waits (log ++ [e]) name signal ↔
    Waits log name signal ∧ fate name [e] = .pending ∨ e = .registered name signal := by
  constructor
  · rintro ⟨past, future, he, hf⟩
    rcases snoc_eq_append_cons_iff.mp he with ⟨-, rfl, -⟩ | ⟨before, rfl, hb⟩
    · exact Or.inr rfl
    · by_cases hp : fate name before = .pending
      · rw [fate_append_of_pending hp] at hf
        exact Or.inl ⟨⟨past, before, hb, hp⟩, hf⟩
      · rw [fate_append_of_ne hp] at hf
        exact absurd hf hp
  · rintro (⟨⟨past, future, rfl, hf⟩, he⟩ | rfl)
    · refine ⟨past, future ++ [e], by rw [List.append_assoc, List.cons_append], ?_⟩
      rw [fate_append_of_pending hf, he]
    · exact ⟨log, [], rfl, rfl⟩

theorem not_waits_notified : ¬Waits (log ++ [.notified count]) name signal := by
  rw [waits_snoc_iff]
  rintro (⟨-, he⟩ | he)
  · cases he
  · cases he

/-- The number of names that signals wait under. -/
def Pending (log : List SignalEvent) (count : Nat) : Prop :=
  ∃ names : List String, names.Nodup ∧ names.length = count ∧
    ∀ name, name ∈ names ↔ ∃ signal, Waits log name signal

/-! ## The invariant -/

structure Inv (log : List SignalEvent) (r : SignalRegistry) : Prop where
  names : (r.waiting.map (·.1)).Nodup
  waiting : ∀ name signal, (name, signal) ∈ r.waiting ↔ Waits log name signal
  states : ∀ past name signal future, log = past ++ .registered name signal :: future →
    r.state? signal = some (fate name future)
  /-- A signal belongs to one name. -/
  owner : ∀ name other signal, .registered name signal ∈ log → .registered other signal ∈ log →
    name = other

theorem lookup_eq_some_iff {l : List (String × Nat)} (h : (l.map (·.1)).Nodup) :
    l.lookup name = some signal ↔ (name, signal) ∈ l := by
  induction l with
  | nil => simp
  | cons entry rest ih =>
    obtain ⟨other, s⟩ := entry
    obtain ⟨fresh, distinct⟩ := List.nodup_cons.mp h
    rw [List.mem_cons, Prod.mk.injEq]
    by_cases he : name = other
    · subst he
      rw [List.lookup_cons_self, Option.some.injEq]
      constructor
      · exact fun hs => Or.inl ⟨rfl, hs.symm⟩
      · rintro (⟨-, hs⟩ | hm)
        · exact hs.symm
        · exact absurd (List.mem_map_of_mem hm) fresh
    · have ne : (name == other) = false := beq_false_of_ne he
      rw [List.lookup_cons, ne, ih distinct]
      simp [he]

theorem Inv.lookup_eq_some_iff (h : Inv log r) :
    r.waiting.lookup name = some signal ↔ Waits log name signal :=
  (SignalRegistry.lookup_eq_some_iff h.names).trans (h.waiting name signal)

theorem Inv.not_waits (h : Inv log r) (free : r.waiting.lookup name = none) :
    ¬Waits log name signal := by
  intro hw
  cases free.symm.trans (h.lookup_eq_some_iff.mpr hw)

theorem Inv.state_of_waits (h : Inv log r) (hw : Waits log name signal) :
    r.state? signal = some .pending := by
  obtain ⟨past, future, rfl, hf⟩ := hw
  rw [h.states past name signal future rfl, hf]

theorem Inv.waits_of_state (h : Inv log r) (hm : .registered name signal ∈ log)
    (hs : r.state? signal = some .pending) : Waits log name signal := by
  obtain ⟨past, future, rfl⟩ := List.append_of_mem hm
  rw [h.states past name signal future rfl] at hs
  exact ⟨past, future, rfl, Option.some.inj hs⟩

theorem Inv.lt (h : Inv log r) (hm : .registered name signal ∈ log) :
    signal < r.signals.length := by
  obtain ⟨past, future, rfl⟩ := List.append_of_mem hm
  have state := h.states past name signal future rfl
  exact (List.getElem?_eq_some_iff.mp state).1

/-- One more event.  The signals that wait get their fates from it, the others keep theirs. -/
theorem Inv.extend (h : Inv log r) (names : (r'.waiting.map (·.1)).Nodup)
    (waiting : ∀ name signal, (name, signal) ∈ r'.waiting ↔ Waits (log ++ [e]) name signal)
    (waited : ∀ name signal, Waits log name signal → r'.state? signal = some (fate name [e]))
    (fixed : ∀ signal state, r.state? signal = some state → state ≠ .pending →
      r'.state? signal = some state)
    (new : ∀ name signal, e = .registered name signal → r'.state? signal = some .pending ∧
      ∀ other, .registered other signal ∈ log → other = name) : Inv (log ++ [e]) r' where
  names := names
  waiting := waiting
  states past name signal future he := by
    rcases snoc_eq_append_cons_iff.mp he with ⟨-, rfl, rfl⟩ | ⟨before, rfl, hb⟩
    · exact (new name signal rfl).1
    · by_cases hp : fate name before = .pending
      · rw [fate_append_of_pending hp]
        exact waited name signal ⟨past, before, hb, hp⟩
      · rw [fate_append_of_ne hp]
        exact fixed signal _ (h.states past name signal before hb) hp
  owner name other signal hn ho := by
    rcases List.mem_append.mp hn with hn | hn <;> rcases List.mem_append.mp ho with ho | ho
    · exact h.owner name other signal hn ho
    · exact (new other signal (List.mem_singleton.mp ho).symm).2 name hn
    · exact ((new name signal (List.mem_singleton.mp hn).symm).2 other ho).symm
    · cases (List.mem_singleton.mp hn).trans (List.mem_singleton.mp ho).symm
      rfl

/-- An event that leaves the registry as it is. -/
theorem Inv.quiet (h : Inv log r) (still : ∀ name signal, Waits log name signal →
      fate name [e] = .pending)
    (known : ∀ name signal, e = .registered name signal → Waits log name signal) :
    Inv (log ++ [e]) r := by
  refine h.extend h.names ?_ ?_ (fun _ _ hs _ => hs) ?_
  · intro name signal
    rw [h.waiting, waits_snoc_iff]
    constructor
    · exact fun hw => Or.inl ⟨hw, still name signal hw⟩
    · rintro (⟨hw, -⟩ | he)
      · exact hw
      · exact known name signal he
  · intro name signal hw
    rw [still name signal hw]
    exact h.state_of_waits hw
  · intro name signal he
    have hw := known name signal he
    exact ⟨h.state_of_waits hw, fun other ho => h.owner other name signal ho hw.mem⟩

theorem Inv.register (h : Inv log r) (name : String) :
    Inv (log ++ [.registered name (r.register name).1]) (r.register name).2 := by
  unfold SignalRegistry.register
  split
  · next signal hl =>
    refine h.quiet (fun _ _ _ => rfl) ?_
    intro other s he
    cases he
    exact h.lookup_eq_some_iff.mp hl
  · next free =>
    have idle : ∀ signal, ¬Waits log name signal := fun _ => h.not_waits free
    refine h.extend ?_ ?_ ?_ ?_ ?_
    · rw [List.map_append]
      refine List.nodup_append.mpr ⟨h.names, List.nodup_singleton _, ?_⟩
      rintro other ho name' hn rfl
      obtain ⟨⟨_, signal⟩, hm, rfl⟩ := List.mem_map.mp ho
      cases List.mem_singleton.mp hn
      exact idle signal ((h.waiting _ signal).mp hm)
    · intro other signal
      have still : fate other [.registered name r.signals.length] = .pending := rfl
      rw [List.mem_append, List.mem_singleton, h.waiting, waits_snoc_iff]
      simp only [still, and_true, Prod.mk.injEq, SignalEvent.registered.injEq, @eq_comm _ other,
        @eq_comm _ signal]
    · intro other signal hw
      have state := h.state_of_waits hw
      show (r.signals ++ [.pending])[signal]? = some .pending
      rw [List.getElem?_append_left (h.lt hw.mem)]
      exact state
    · intro signal state hs _
      show (r.signals ++ [.pending])[signal]? = some state
      rw [List.getElem?_append_left (List.getElem?_eq_some_iff.mp hs).1]
      exact hs
    · intro other signal he
      cases he
      refine ⟨?_, fun other ho => absurd (h.lt ho) (Nat.lt_irrefl _)⟩
      show (r.signals ++ [.pending])[r.signals.length]? = some .pending
      simp

theorem Inv.retire (h : Inv log r) (name : String) :
    Inv (log ++ [.retired name (r.retire name).1]) (r.retire name).2 := by
  unfold SignalRegistry.retire
  split
  · next signal hl =>
    have hw : Waits log name signal := h.lookup_eq_some_iff.mp hl
    have state := h.state_of_waits hw
    have bound : signal < r.signals.length := h.lt hw.mem
    refine h.extend ?_ ?_ ?_ ?_ fun _ _ he => nomatch he
    · exact h.names.sublist (List.filter_sublist.map _)
    · intro other s
      rw [List.mem_filter, h.waiting, waits_snoc_iff]
      by_cases he : name = other
      · simp [he]
      · simp [fate_retired_of_ne he, Ne.symm he]
    · intro other s hs
      show (r.signals.set signal .retired)[s]? = some (fate other [.retired name true])
      by_cases he : name = other
      · subst he
        obtain rfl : s = signal :=
          Option.some.inj ((h.lookup_eq_some_iff.mpr hs).symm.trans hl)
        rw [List.getElem?_set_self bound, fate_retired_self]
      · have ne : signal ≠ s := by
          rintro rfl
          exact he (h.owner name other signal hw.mem hs.mem)
        rw [List.getElem?_set_ne ne, fate_retired_of_ne he]
        exact h.state_of_waits hs
    · intro s state' hs hne
      show (r.signals.set signal .retired)[s]? = some state'
      have ne : signal ≠ s := by
        rintro rfl
        exact hne (Option.some.inj (hs.symm.trans state))
      rw [List.getElem?_set_ne ne]
      exact hs
  · next free =>
    refine h.quiet ?_ fun _ _ he => nomatch he
    intro other signal hw
    by_cases he : name = other
    · exact absurd (he ▸ hw) (h.not_waits free)
    · exact fate_retired_of_ne he

theorem getElem?_fired (waiting : List (String × Nat)) (signals : List SignalState) (s : Nat) :
    (waiting.foldl (fun signals (_, signal) => signals.set signal .fired) signals)[s]? =
      if s ∈ waiting.map (·.2) then signals[s]?.map fun _ => .fired else signals[s]? := by
  induction waiting generalizing signals with
  | nil => rfl
  | cons entry rest ih =>
    obtain ⟨name, signal⟩ := entry
    rw [List.foldl_cons, ih]
    simp only [List.map_cons, List.mem_cons]
    by_cases he : s = signal
    · subst he
      by_cases hs : s < signals.length
      · simp [hs]
      · simp [hs]
    · rw [List.getElem?_set_ne (Ne.symm he)]
      by_cases hm : s ∈ rest.map (·.2)
      · rw [if_pos hm, if_pos (Or.inr hm)]
      · rw [if_neg hm, if_neg (not_or_intro he hm)]

theorem Inv.notify (h : Inv log r) :
    Inv (log ++ [.notified r.notifyAll.1]) r.notifyAll.2 := by
  have fired (s : Nat) : r.notifyAll.2.state? s =
      if s ∈ r.waiting.map (·.2) then (r.state? s).map fun _ => .fired else r.state? s :=
    getElem?_fired r.waiting r.signals s
  refine h.extend List.nodup_nil ?_ ?_ ?_ fun _ _ he => nomatch he
  · intro name signal
    have gone : fate name [.notified r.notifyAll.1] = .fired := rfl
    rw [waits_snoc_iff, gone]
    simp [notifyAll]
  · intro name signal hw
    have waits : signal ∈ r.waiting.map (·.2) :=
      List.mem_map_of_mem ((h.waiting name signal).mpr hw)
    rw [fired, if_pos waits, h.state_of_waits hw]
    rfl
  · intro signal state hs hne
    have gone : signal ∉ r.waiting.map (·.2) := by
      intro hm
      obtain ⟨⟨name, _⟩, waits, rfl⟩ := List.mem_map.mp hm
      have pending := h.state_of_waits ((h.waiting name _).mp waits)
      exact hne (Option.some.inj (hs.symm.trans pending))
    rw [fired, if_neg gone, hs]

theorem inv_empty : Inv [] empty where
  names := List.nodup_nil
  waiting name signal := by simp [Waits, empty]
  states past name signal future he := by simp at he
  owner _ _ _ := (nomatch ·)

/-- **Every operation keeps the invariant.** -/
theorem Inv.step (h : Inv log r) (step : Step r e r') : Inv (log ++ [e]) r' := by
  cases step with
  | register name => exact h.register name
  | retire name => exact h.retire name
  | notify => exact h.notify
  | query | count => exact h.quiet (fun _ _ _ => rfl) fun _ _ he => nomatch he

theorem inv_of_run (h : Logged Step empty log r) : Inv log r := by
  induction h with
  | nil => exact inv_empty
  | snoc _ step ih => exact ih.step step

/-! ## What the operations answer -/

theorem Inv.pending (h : Inv log r) : Pending log r.size := by
  refine ⟨r.waiting.map (·.1), h.names, List.length_map _, fun name => ?_⟩
  rw [List.mem_map]
  constructor
  · rintro ⟨⟨_, signal⟩, hm, rfl⟩
    exact ⟨signal, (h.waiting _ signal).mp hm⟩
  · rintro ⟨signal, hw⟩
    exact ⟨(name, signal), (h.waiting name signal).mpr hw, rfl⟩

theorem Inv.isSome_lookup_iff (h : Inv log r) :
    (r.waiting.lookup name).isSome = true ↔ ∃ signal, Waits log name signal := by
  rw [Option.isSome_iff_exists]
  exact exists_congr fun signal => h.lookup_eq_some_iff

/-- What a run of operations says of its signals. -/
structure SingleFire (log : List SignalEvent) (r : SignalRegistry) : Prop where
  /-- A signal is what the events after any of its registrations make of it. -/
  state : ∀ past name signal future, log = past ++ .registered name signal :: future →
    r.state? signal = some (fate name future)
  fired : ∀ past name signal future, log = past ++ .registered name signal :: future →
    (r.state? signal = some .fired ↔ ∃ before count after,
      future = before ++ .notified count :: after ∧ ∀ existed, .retired name existed ∉ before)
  retired : ∀ past name signal future, log = past ++ .registered name signal :: future →
    (r.state? signal = some .retired ↔ ∃ before existed after,
      future = before ++ .retired name existed :: after ∧ ∀ count, .notified count ∉ before)
  /-- What has become of a signal does not change any more. -/
  final : ∀ name signal, .registered name signal ∈ log → r.state? signal ≠ some .pending →
    ∀ later r', Logged Step r later r' → r'.state? signal = r.state? signal
  /-- Registrations of a name share the signal if nothing happens to the name in between. -/
  same : ∀ past name s middle t future,
    log = past ++ .registered name s :: middle ++ .registered name t :: future →
      (s = t ↔ ∀ e ∈ middle, (∀ count, e ≠ .notified count) ∧ ∀ existed, e ≠ .retired name existed)
  owner : ∀ name other signal, .registered name signal ∈ log → .registered other signal ∈ log →
    name = other
  /-- A notification fires one signal for each name that waits. -/
  notified : ∀ past count future, log = past ++ .notified count :: future → Pending past count
  /-- A notification leaves no signal pending. -/
  settled : ∀ past count, log = past ++ [.notified count] →
    Pending log 0 ∧ ∀ name signal, .registered name signal ∈ log → r.state? signal ≠ some .pending
  existed : ∀ past name existed future, log = past ++ .retired name existed :: future →
    (existed = true ↔ ∃ signal, Waits past name signal)
  queried : ∀ past name found future, log = past ++ .queried name found :: future →
    (found = true ↔ ∃ signal, Waits past name signal)
  counted : ∀ past count future, log = past ++ .counted count :: future → Pending past count

theorem Inv.same (h : Inv (past ++ .registered name s :: middle) r)
    (ht : (r.register name).1 = t) : s = t ↔ fate name middle = .pending := by
  have next := h.register name
  rw [ht] at next
  have first := next.states past name s (middle ++ [.registered name t]) (by simp)
  have second := next.states _ name t [] rfl
  constructor
  · intro he
    -- The signal is pending again, so that nothing has happened to it.
    by_contra decided
    rw [he, second, fate_append_of_ne decided] at first
    exact decided (Option.some.inj first).symm
  · intro idle
    have waits : Waits (past ++ .registered name s :: middle) name s := ⟨past, middle, rfl, idle⟩
    have found := h.lookup_eq_some_iff.mpr waits
    rw [← ht, SignalRegistry.register, found]

/-- **A signal fires once at most, and only for a notification** that comes before the end of its
name. -/
theorem singleFire_of_run (h : Logged Step empty log r) : SingleFire log r := by
  have inv := inv_of_run h
  refine ⟨inv.states, ?_, ?_, ?_, ?_, inv.owner, ?_, ?_, ?_, ?_, ?_⟩
  · intro past name signal future he
    rw [inv.states past name signal future he, Option.some.injEq, fate_eq_fired_iff]
  · intro past name signal future he
    rw [inv.states past name signal future he, Option.some.injEq, fate_eq_retired_iff]
  · intro name signal hm hp later r' more
    obtain ⟨past, future, rfl⟩ := List.append_of_mem hm
    have now := inv.states past name signal future rfl
    have decided : fate name future ≠ .pending := by
      intro hf
      exact hp (hf ▸ now)
    have next := (inv_of_run (h.append more)).states past name signal (future ++ later) (by simp)
    rw [next, now, fate_append_of_ne decided]
  · intro past name s middle t future he
    obtain ⟨r₁, r₂, run, step, -⟩ := h.split he
    cases step
    rw [(inv_of_run run).same rfl, fate_eq_pending_iff]
    exact forall₂_congr fun e _ => effect_eq_none_iff
  · rintro past count future he
    obtain ⟨r₁, r₂, run, step, -⟩ := h.split he
    cases step
    exact (inv_of_run run).pending
  · rintro past count rfl
    refine ⟨⟨[], List.nodup_nil, rfl, fun name => ?_⟩, ?_⟩
    · simp [not_waits_notified]
    · intro name signal hm hs
      exact not_waits_notified (inv.waits_of_state hm hs)
  · intro past name existed future he
    obtain ⟨r₁, r₂, run, step, -⟩ := h.split he
    cases step
    rw [← (inv_of_run run).isSome_lookup_iff]
    unfold SignalRegistry.retire
    split <;> simp [*]
  · intro past name found future he
    obtain ⟨r₁, r₂, run, step, -⟩ := h.split he
    cases step
    exact (inv_of_run run).isSome_lookup_iff
  · intro past count future he
    obtain ⟨r₁, r₂, run, step, -⟩ := h.split he
    cases step
    exact (inv_of_run run).pending

end SignalRegistry

end PaymentChannel
