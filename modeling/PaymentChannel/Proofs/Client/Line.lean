import PaymentChannel.Proofs.Account.Guarded
import PaymentChannel.Proofs.Client.Errand
import PaymentChannel.Proofs.Client.Signals

/-!
# Callers in line

Any number of callers share one client.  They stand in line for it, the first in line takes it as
soon as it is free and keeps it until its errand is over.  A caller may be dropped wherever it
waits, and anybody may use the signals of the client at any time.

* `Line` : the client and the callers.
* `Line.Step`, `Line.Run` : what can happen next, and what has happened.
* `Line.callers`, `Line.entrants`, `Line.doings`, `Line.deedsOf` : what the log says.
* `Line.Inv` : the deeds of every caller keep to its progress, and nobody else acts in between.
  `Line.inv_of_run` : every run keeps it.
-/

namespace PaymentChannel

variable {κ : Type}

inductive CallerState (κ : Type) where
  | absent
  | waiting (errand : Errand)
  | working (errand : Errand) (progress : Progress κ errand)
  | gone

/-- A client, and who waits for it. -/
structure Desk (κ : Type) where
  client : RedialingClient κ
  queue : List Nat

abbrev Line (κ : Type) : Type := Guarded (Desk κ) (CallerState κ)

inductive LineEntry (κ : Type) where
  | called (i : Nat) (errand : Errand)
  | entered (i : Nat) (errand : Errand)
  | did (i : Nat) (deed : Deed κ)
  | returned (i : Nat) (errand : Errand) (result : NodeAnswer errand.Result)
  | dropped (i : Nat)
  | signalled (event : SignalEvent)

namespace Progress

variable {errand : Errand}

/-- The caller waits for something to happen. -/
def Awaits : Progress κ errand → Prop
  | awaiting _ | stage (.dialing _) | stage (.pausing _) => True
  | _ => False

theorem Awaits.isAsk {progress : Progress κ errand} {d : Deed κ} (h : progress.Awaits)
    (hs : progress.since = some d) : d.isAsk = true := by
  cases progress with
  | stage | ending => cases hs
  | announcing => cases h
  | awaiting c =>
    cases errand with
    | redial => cases hs
    | call request =>
      cases hs
      rfl

end Progress

namespace Line

variable {limit : Option Nat} {w w' : Line κ} {i j : Nat} {entry : LineEntry κ}
  {log past future : List (LineEntry κ)} {client : RedialingClient κ} {errand : Errand}
  {progress progress' : Progress κ errand} {deed : Deed κ}

def fresh (client : RedialingClient κ) : Line κ := ⟨⟨client, []⟩, none, fun _ => .absent⟩

inductive Step (limit : Option Nat) (w : Line κ) : LineEntry κ → Line κ → Prop
  | call {i : Nat} (errand : Errand) (h : w.task i = .absent) :
      Step limit w (.called i errand)
        { w.put i (.waiting errand) with value := ⟨w.value.client, w.value.queue ++ [i]⟩ }
  | enter {i : Nat} {errand : Errand} {queue : List Nat} (h : w.task i = .waiting errand)
      (free : w.holder = none) (first : w.value.queue = i :: queue) :
      Step limit w (.entered i errand)
        ⟨⟨(errand.start w.value.client).1, queue⟩, some i,
          (w.put i (.working errand (.stage (errand.start w.value.client).2))).task⟩
  | work {i : Nat} {errand : Errand} {progress progress' : Progress κ errand} {deed : Deed κ}
      {client : RedialingClient κ} (h : w.task i = .working errand progress)
      (works : Works limit errand w.value.client progress deed client progress') :
      Step limit w (.did i deed)
        { w.put i (.working errand progress') with value := ⟨client, w.value.queue⟩ }
  | leave {i : Nat} {errand : Errand} {result : NodeAnswer errand.Result}
      (h : w.task i = .working errand (.ending result)) :
      Step limit w (.returned i errand result) ((w.put i .gone).freed i)
  | drop {i : Nat} {errand : Errand} (h : w.task i = .waiting errand) :
      Step limit w (.dropped i)
        { w.put i .gone with value := ⟨w.value.client, w.value.queue.erase i⟩ }
  | interrupt {i : Nat} {errand : Errand} {progress : Progress κ errand}
      (h : w.task i = .working errand progress) (awaits : progress.Awaits) :
      Step limit w (.dropped i) ((w.put i .gone).freed i)
  | signal {event : SignalEvent} {signals : SignalRegistry}
      (h : w.value.client.signals.Step event signals) :
      Step limit w (.signalled event)
        { w with value := ⟨{ w.value.client with signals }, w.value.queue⟩ }

abbrev Run (limit : Option Nat) (client : RedialingClient κ) :
    List (LineEntry κ) → Line κ → Prop :=
  Logged (Step limit) (fresh client)

/-! ## The log -/

end Line

namespace LineEntry

/-- Whom an entry is about. -/
def about : LineEntry κ → Option Nat
  | called i _ | entered i _ | did i _ | returned i _ _ | dropped i => some i
  | signalled _ => none

def caller? : LineEntry κ → Option Nat
  | called i _ => some i
  | _ => none

def entrant? : LineEntry κ → Option Nat
  | entered i _ => some i
  | _ => none

def doing? : LineEntry κ → Option (Nat × Deed κ)
  | did i deed => some (i, deed)
  | _ => none

theorem eq_did_of_doing? {entry : LineEntry κ} {doing : Nat × Deed κ}
    (h : entry.doing? = some doing) : entry = .did doing.1 doing.2 := by
  cases entry with
  | did i deed =>
    cases h
    rfl
  | called | entered | returned | dropped | signalled => cases h

end LineEntry

namespace Line

variable {limit : Option Nat} {w w' : Line κ} {i j : Nat} {entry : LineEntry κ}
  {log past future : List (LineEntry κ)} {client : RedialingClient κ} {errand : Errand}
  {progress progress' : Progress κ errand} {deed : Deed κ} {doing : Nat × Deed κ}
  {past' future' : List (Nat × Deed κ)}

/-- The callers in the order in which they stand in line. -/
def callers (log : List (LineEntry κ)) : List Nat := log.filterMap (·.caller?)

/-- The callers in the order in which they take the client. -/
def entrants (log : List (LineEntry κ)) : List Nat := log.filterMap (·.entrant?)

/-- What is done, and by whom. -/
def doings (log : List (LineEntry κ)) : List (Nat × Deed κ) := log.filterMap (·.doing?)

def deedsOf (i : Nat) (log : List (LineEntry κ)) : List (Deed κ) :=
  (doings log).filterMap fun doing => if doing.1 = i then some doing.2 else none

theorem callers_snoc : callers (log ++ [entry]) = callers log ++ entry.caller?.toList :=
  filterMap_snoc _

theorem entrants_snoc : entrants (log ++ [entry]) = entrants log ++ entry.entrant?.toList :=
  filterMap_snoc _

theorem doings_snoc : doings (log ++ [entry]) = doings log ++ entry.doing?.toList :=
  filterMap_snoc _

theorem deedsOf_did : deedsOf i (log ++ [.did i deed]) = deedsOf i log ++ [deed] := by
  simp [deedsOf, doings_snoc, LineEntry.doing?]

theorem deedsOf_other (h : entry.about ≠ some i) : deedsOf i (log ++ [entry]) = deedsOf i log := by
  rw [deedsOf, doings_snoc, List.filterMap_append]
  cases entry with
  | did j deed =>
    have ne : j ≠ i := fun he => h (congrArg some he)
    simp [deedsOf, LineEntry.doing?, ne]
  | called | entered | returned | dropped | signalled => exact List.append_nil _

theorem deedsOf_idle (h : entry.doing? = none) (i : Nat) :
    deedsOf i (log ++ [entry]) = deedsOf i log := by
  rw [deedsOf, doings_snoc, h, Option.toList_none, List.append_nil, deedsOf]

theorem mem_entrants_snoc_iff (h : entry.about ≠ some i) :
    i ∈ entrants (log ++ [entry]) ↔ i ∈ entrants log := by
  rw [entrants_snoc, List.mem_append]
  refine or_iff_left fun hm => h ?_
  cases entry with
  | entered j errand =>
    cases List.mem_singleton.mp hm
    rfl
  | called | did | returned | dropped | signalled => cases hm

/-! ## The invariant -/

/-- What is known of a caller by its state. -/
def Known (limit : Option Nat) (log : List (LineEntry κ)) (w : Line κ) (i : Nat) :
    CallerState κ → Prop
  | .absent => i ∉ entrants log ∧ deedsOf i log = []
  | .waiting errand => i ∉ entrants log ∧ deedsOf i log = [] ∧ .called i errand ∈ log
  | .working errand progress => w.holder = some i ∧ .called i errand ∈ log ∧
    Doing limit (deedsOf i log) progress ∧ Brief (deedsOf i log) progress ∧
    Agrees w.value.client progress
  | .gone => ((∃ errand result, .returned i errand result ∈ log) ∨ .dropped i ∈ log) ∧
    (deedsOf i log).length ≤ allowance (deedsOf i log)

structure Inv (limit : Option Nat) (log : List (LineEntry κ)) (w : Line κ) : Prop where
  known : ∀ i, Known limit log w i (w.task i)
  queued : ∀ i, i ∈ w.value.queue ↔ ∃ errand, w.task i = .waiting errand
  distinct : w.value.queue.Nodup
  holds : ∀ i, w.holder = some i → ∃ errand progress, w.task i = .working errand progress
  entered : (entrants log).Nodup
  /-- Who has the client has entered last. -/
  latest : ∀ i, w.holder = some i → ∃ earlier, entrants log = earlier ++ [i]
  /-- The callers act one after the other, in the order in which they enter. -/
  serial : doings log = (entrants log).flatMap fun i => (deedsOf i log).map (i, ·)
  idle : w.holder = none → w.value.client.Coherent

theorem Inv.absent (h : Inv limit log w) (hi : w.task i = .absent) :
    i ∉ entrants log ∧ deedsOf i log = [] := by
  have known := h.known i
  rwa [hi] at known

theorem Inv.waiting (h : Inv limit log w) (hi : w.task i = .waiting errand) :
    i ∉ entrants log ∧ deedsOf i log = [] ∧ .called i errand ∈ log := by
  have known := h.known i
  rwa [hi] at known

theorem Inv.working (h : Inv limit log w) (hi : w.task i = .working errand progress) :
    w.holder = some i ∧ .called i errand ∈ log ∧ Doing limit (deedsOf i log) progress ∧
      Brief (deedsOf i log) progress ∧ Agrees w.value.client progress := by
  have known := h.known i
  rwa [hi] at known

/-- What happens to one caller leaves the others as they are, as long as it does not touch the
client of another one. -/
theorem Known.frame (h : Known limit log w j (w.task j)) (ht : w'.task j = w.task j)
    (hj : entry.about ≠ some j)
    (hh : w.holder = some j → w'.holder = some j ∧
      w'.value.client.connection = w.value.client.connection ∧
      w'.value.client.status = w.value.client.status) :
    Known limit (log ++ [entry]) w' j (w'.task j) := by
  have same : deedsOf j (log ++ [entry]) = deedsOf j log := deedsOf_other hj
  rw [ht]
  cases hs : w.task j with
  | absent =>
    rw [hs] at h
    exact ⟨(mem_entrants_snoc_iff hj).not.mpr h.1, same.trans h.2⟩
  | waiting errand =>
    rw [hs] at h
    obtain ⟨outside, idle, called⟩ := h
    exact ⟨(mem_entrants_snoc_iff hj).not.mpr outside, same.trans idle,
      List.mem_append_left _ called⟩
  | working errand progress =>
    rw [hs] at h
    obtain ⟨holder, called, doing, brief, agrees⟩ := h
    obtain ⟨holder', connection, status⟩ := hh holder
    rw [Known, same]
    exact ⟨holder', List.mem_append_left _ called, doing, brief, agrees.congr connection status⟩
  | gone =>
    rw [hs] at h
    obtain ⟨left, short⟩ := h
    rw [Known, same]
    refine ⟨left.imp ?_ (List.mem_append_left _), short⟩
    rintro ⟨errand, result, returned⟩
    exact ⟨errand, result, List.mem_append_left _ returned⟩

/-- One caller takes its next state. -/
theorem Inv.known_after {state : CallerState κ} (h : Inv limit log w) (hi : entry.about = some i)
    (ht : w'.task = Function.update w.task i state)
    (known : Known limit (log ++ [entry]) w' i state)
    (alone : ∀ j, j ≠ i → w.holder = some j → w'.holder = some j ∧
      w'.value.client = w.value.client) (j : Nat) :
    Known limit (log ++ [entry]) w' j (w'.task j) := by
  by_cases hj : j = i
  · subst hj
    rw [ht, Function.update_self]
    exact known
  · have same : w'.task j = w.task j := by rw [ht, Function.update_of_ne hj]
    refine (h.known j).frame same (fun he => hj (Option.some.inj (he.symm.trans hi))) fun ho => ?_
    obtain ⟨holder, client⟩ := alone j hj ho
    rw [client]
    exact ⟨holder, rfl, rfl⟩

/-- Nothing is done, and nobody enters. -/
theorem Inv.serial_idle (h : Inv limit log w) (hd : entry.doing? = none)
    (he : entry.entrant? = none) : doings (log ++ [entry]) =
      (entrants (log ++ [entry])).flatMap fun i => (deedsOf i (log ++ [entry])).map (i, ·) := by
  rw [doings_snoc, entrants_snoc, hd, he]
  simp only [deedsOf_idle hd, Option.toList_none, List.append_nil]
  exact h.serial

theorem entrants_idle (he : entry.entrant? = none) : entrants (log ++ [entry]) = entrants log := by
  rw [entrants_snoc, he, Option.toList_none, List.append_nil]

/-- One caller leaves the line. -/
theorem Inv.queued_after {state : CallerState κ} (h : Inv limit log w)
    (ht : w'.task = Function.update w.task i state) (hs : ∀ errand, state ≠ .waiting errand)
    (hq : ∀ j, j ∈ w'.value.queue ↔ j ≠ i ∧ j ∈ w.value.queue) (j : Nat) :
    j ∈ w'.value.queue ↔ ∃ errand, w'.task j = .waiting errand := by
  rw [hq, ht, h.queued]
  by_cases hj : j = i
  · subst hj
    simp [hs]
  · simp [hj]

theorem Inv.call (h : Inv limit log w) (hi : w.task i = .absent) :
    Inv limit (log ++ [.called i errand])
      { w.put i (.waiting errand) with value := ⟨w.value.client, w.value.queue ++ [i]⟩ } := by
  have outside : i ∉ w.value.queue := by
    rw [h.queued, hi]
    rintro ⟨errand', he⟩
    cases he
  have unheld : w.holder ≠ some i := by
    intro ho
    obtain ⟨errand', progress, hw⟩ := h.holds i ho
    cases hi.symm.trans hw
  obtain ⟨unentered, undone⟩ := h.absent hi
  refine ⟨h.known_after rfl rfl ?_ fun j _ ho => ⟨ho, rfl⟩, ?_, ?_, ?_, ?_, ?_, ?_, h.idle⟩
  · refine ⟨?_, ?_, List.mem_append_right _ (List.mem_singleton_self _)⟩
    · rwa [entrants_idle rfl]
    · rwa [deedsOf_idle rfl]
  · intro j
    show j ∈ w.value.queue ++ [i] ↔ ∃ errand', Function.update w.task i _ j = _
    rw [List.mem_append, List.mem_singleton, h.queued]
    by_cases hj : j = i
    · subst hj
      simp
    · simp [hj]
  · exact h.distinct.append (List.nodup_singleton i) (List.disjoint_singleton.mpr outside)
  · intro j ho
    have hj : j ≠ i := fun he => unheld (he ▸ ho)
    show ∃ errand' progress, Function.update w.task i _ j = _
    rw [Function.update_of_ne hj]
    exact h.holds j ho
  · rw [entrants_idle rfl]
    exact h.entered
  · rw [entrants_idle rfl]
    exact h.latest
  · exact h.serial_idle rfl rfl

theorem Inv.enter {queue : List Nat} (h : Inv limit log w) (hi : w.task i = .waiting errand)
    (free : w.holder = none) (first : w.value.queue = i :: queue) :
    Inv limit (log ++ [.entered i errand])
      ⟨⟨(errand.start w.value.client).1, queue⟩, some i,
        (w.put i (.working errand (.stage (errand.start w.value.client).2))).task⟩ := by
  obtain ⟨outside, undone, called⟩ := h.waiting hi
  have distinct := h.distinct
  rw [first, List.nodup_cons] at distinct
  have entrants_eq : entrants (log ++ [.entered i errand]) = entrants log ++ [i] := entrants_snoc
  refine ⟨h.known_after rfl rfl ?_ fun j _ ho => absurd (free.symm.trans ho) (nomatch ·), ?_,
    distinct.2, ?_, ?_, ?_, ?_, (nomatch ·)⟩
  · rw [Known, deedsOf_idle rfl, undone]
    exact ⟨rfl, List.mem_append_left _ called, Doing.start errand _, Brief.start errand _,
      Agrees.start (h.idle free) errand⟩
  · refine h.queued_after (i := i) rfl (fun _ => (nomatch ·)) fun j => ?_
    rw [first, List.mem_cons]
    constructor
    · intro hj
      have ne : j ≠ i := by
        rintro rfl
        exact distinct.1 hj
      exact ⟨ne, Or.inr hj⟩
    · exact fun ⟨ne, hj⟩ => hj.resolve_left ne
  · intro j ho
    cases ho
    exact ⟨errand, _, Guarded.put_task⟩
  · rw [entrants_eq]
    exact h.entered.append (List.nodup_singleton i) (List.disjoint_singleton.mpr outside)
  · intro j ho
    cases ho
    exact ⟨entrants log, entrants_eq⟩
  · rw [entrants_eq, doings_snoc, List.flatMap_append]
    have same (j : Nat) : deedsOf j (log ++ [.entered i errand]) = deedsOf j log :=
      deedsOf_idle rfl j
    simp only [same, List.flatMap_singleton, undone]
    exact congrArg (· ++ []) h.serial

theorem Inv.outside (h : Inv limit log w) (hi : w.task i = .working errand progress) :
    i ∉ w.value.queue := by
  rw [h.queued, hi]
  rintro ⟨errand', he⟩
  cases he

/-- The one who has the client is alone with it. -/
theorem Inv.alone (h : Inv limit log w) (hi : w.task i = .working errand progress) (hj : j ≠ i) :
    w.holder ≠ some j := by
  rw [(h.working hi).1]
  exact fun he => hj (Option.some.inj he).symm

theorem Inv.work {client' : RedialingClient κ} (h : Inv limit log w)
    (hi : w.task i = .working errand progress)
    (works : Works limit errand w.value.client progress deed client' progress') :
    Inv limit (log ++ [.did i deed])
      { w.put i (.working errand progress') with value := ⟨client', w.value.queue⟩ } := by
  obtain ⟨holder, called, doing, brief, agrees⟩ := h.working hi
  refine ⟨h.known_after rfl rfl ?_ fun j hj ho => absurd ho (h.alone hi hj), ?_, h.distinct, ?_, ?_,
    ?_, ?_, ?_⟩
  · rw [Known, deedsOf_did]
    exact ⟨holder, List.mem_append_left _ called, doing.work works, brief.work works,
      agrees.work works⟩
  · refine h.queued_after (i := i) rfl (fun _ => (nomatch ·)) fun j => ?_
    refine ⟨fun hj => ⟨?_, hj⟩, And.right⟩
    rintro rfl
    exact h.outside hi hj
  · intro j ho
    obtain rfl : i = j := Option.some.inj (holder.symm.trans ho)
    exact ⟨errand, progress', Guarded.put_task⟩
  · rw [entrants_idle rfl]
    exact h.entered
  · rw [entrants_idle rfl]
    exact h.latest
  · -- Only the deeds of the caller that has entered last go on.
    obtain ⟨earlier, last⟩ := h.latest i holder
    have entered := h.entered
    rw [last, List.nodup_append] at entered
    have others : earlier.flatMap (fun j => (deedsOf j (log ++ [.did i deed])).map (j, ·)) =
        earlier.flatMap fun j => (deedsOf j log).map (j, ·) := by
      refine List.flatMap_congr fun j hj => ?_
      have ne : i ≠ j := (entered.2.2 j hj i (List.mem_singleton_self i)).symm
      have kept : deedsOf j (log ++ [.did i deed]) = deedsOf j log :=
        deedsOf_other fun he => ne (Option.some.inj he)
      rw [kept]
    have serial := h.serial
    rw [last, List.flatMap_append, List.flatMap_singleton] at serial
    rw [doings_snoc, entrants_idle rfl, last, List.flatMap_append, List.flatMap_singleton,
      deedsOf_did, serial, others, List.map_append, ← List.append_assoc]
    rfl
  · exact fun free => absurd (holder.symm.trans free) (nomatch ·)

/-- A caller gives the client back. -/
theorem Inv.depart (h : Inv limit log w) (hi : w.task i = .working errand progress)
    (about : entry.about = some i) (hd : entry.doing? = none) (he : entry.entrant? = none)
    (known : Known limit (log ++ [entry]) ((w.put i .gone).freed i) i .gone) :
    Inv limit (log ++ [entry]) ((w.put i .gone).freed i) := by
  obtain ⟨holder, -, -, -, agrees⟩ := h.working hi
  have free : ((w.put i .gone).freed i).holder = none := if_pos holder
  refine ⟨h.known_after about rfl known fun j hj ho => absurd ho (h.alone hi hj), ?_,
    h.distinct, ?_, ?_, ?_, h.serial_idle hd he, fun _ => agrees.coherent⟩
  · refine h.queued_after (i := i) rfl (fun _ => (nomatch ·)) fun j => ?_
    refine ⟨fun hj => ⟨?_, hj⟩, And.right⟩
    rintro rfl
    exact h.outside hi hj
  · exact fun j ho => absurd (free.symm.trans ho) (nomatch ·)
  · rw [entrants_idle he]
    exact h.entered
  · exact fun j ho => absurd (free.symm.trans ho) (nomatch ·)

theorem Inv.leave {result : NodeAnswer errand.Result} (h : Inv limit log w)
    (hi : w.task i = .working errand (.ending result)) :
    Inv limit (log ++ [.returned i errand result]) ((w.put i .gone).freed i) := by
  obtain ⟨-, -, -, brief, -⟩ := h.working hi
  refine h.depart hi rfl rfl rfl ?_
  rw [Known, deedsOf_idle rfl]
  exact ⟨Or.inl ⟨errand, result, List.mem_append_right _ (List.mem_singleton_self _)⟩, brief⟩

theorem Inv.interrupt (h : Inv limit log w) (hi : w.task i = .working errand progress) :
    Inv limit (log ++ [.dropped i]) ((w.put i .gone).freed i) := by
  obtain ⟨-, -, -, brief, -⟩ := h.working hi
  refine h.depart hi rfl rfl rfl ?_
  rw [Known, deedsOf_idle rfl]
  exact ⟨Or.inr (List.mem_append_right _ (List.mem_singleton_self _)),
    (Nat.le_add_right _ _).trans brief⟩

theorem Inv.drop (h : Inv limit log w) (hi : w.task i = .waiting errand) :
    Inv limit (log ++ [.dropped i])
      { w.put i .gone with value := ⟨w.value.client, w.value.queue.erase i⟩ } := by
  obtain ⟨-, undone, -⟩ := h.waiting hi
  refine ⟨h.known_after rfl rfl ?_ fun j _ ho => ⟨ho, rfl⟩, ?_, h.distinct.erase i, ?_, ?_, ?_,
    h.serial_idle rfl rfl, h.idle⟩
  · rw [Known, deedsOf_idle rfl, undone]
    exact ⟨Or.inr (List.mem_append_right _ (List.mem_singleton_self _)), Nat.zero_le _⟩
  · exact h.queued_after (i := i) rfl (fun _ => (nomatch ·)) fun j => h.distinct.mem_erase_iff
  · intro j ho
    obtain ⟨errand', progress, hw⟩ := h.holds j ho
    have hj : j ≠ i := by
      rintro rfl
      cases hi.symm.trans hw
    exact ⟨errand', progress, (Function.update_of_ne hj ..).trans hw⟩
  · rw [entrants_idle rfl]
    exact h.entered
  · rw [entrants_idle rfl]
    exact h.latest

theorem Inv.signal {event : SignalEvent} (h : Inv limit log w) (signals : SignalRegistry) :
    Inv limit (log ++ [.signalled event])
      { w with value := ⟨{ w.value.client with signals }, w.value.queue⟩ } := by
  refine ⟨fun j => (h.known j).frame rfl (nomatch ·) fun ho => ⟨ho, rfl, rfl⟩, h.queued, h.distinct,
    h.holds, ?_, ?_, h.serial_idle rfl rfl, h.idle⟩
  · rw [entrants_idle rfl]
    exact h.entered
  · rw [entrants_idle rfl]
    exact h.latest

theorem inv_fresh (h : client.Coherent) : Inv limit [] (fresh client) where
  known _ := ⟨List.not_mem_nil, rfl⟩
  queued _ := iff_of_false List.not_mem_nil fun ⟨_, he⟩ => nomatch he
  distinct := .nil
  holds _ := (nomatch ·)
  entered := .nil
  latest _ := (nomatch ·)
  serial := rfl
  idle _ := h

/-- **Every step keeps the invariant.** -/
theorem Inv.step (h : Inv limit log w) (step : Step limit w entry w') :
    Inv limit (log ++ [entry]) w' := by
  cases step with
  | call errand hi => exact h.call hi
  | enter hi free first => exact h.enter hi free first
  | work hi works => exact h.work hi works
  | leave hi => exact h.leave hi
  | drop hi => exact h.drop hi
  | interrupt hi => exact h.interrupt hi
  | signal => exact h.signal _

theorem inv_of_run (hc : client.Coherent) (h : Run limit client log w) : Inv limit log w := by
  induction h with
  | nil => exact inv_fresh hc
  | snoc _ step ih => exact ih.step step

/-- Nobody does more than its share. -/
theorem Inv.short (h : Inv limit log w) (i : Nat) :
    (deedsOf i log).length ≤ allowance (deedsOf i log) := by
  have known := h.known i
  cases hi : w.task i with
  | absent =>
    rw [(h.absent hi).2]
    exact Nat.zero_le _
  | waiting =>
    rw [(h.waiting hi).2.1]
    exact Nat.zero_le _
  | working errand progress =>
    obtain ⟨-, -, -, brief, -⟩ := h.working hi
    exact (Nat.le_add_right _ _).trans brief
  | gone =>
    rw [hi] at known
    exact known.2

/-! ## One entry of the log -/

theorem doings_eq_append_cons (h : doings log = past' ++ (i, deed) :: future') :
    ∃ past future, log = past ++ .did i deed :: future ∧ doings past = past' := by
  obtain ⟨early, rest, rfl, hp, hr⟩ := List.filterMap_eq_append_iff.mp h
  obtain ⟨idle, entry, future, rfl, hi, he, -⟩ := List.filterMap_eq_cons_iff.mp hr
  obtain rfl := LineEntry.eq_did_of_doing? he
  refine ⟨early ++ idle, future, (List.append_assoc ..).symm, ?_⟩
  rw [doings, List.filterMap_append, hp, List.filterMap_eq_nil_iff.mpr hi, List.append_nil]

/-- The run up to something that is done. -/
theorem step_of_doing (h : Run limit client log w)
    (hd : doings log = past' ++ (i, deed) :: future') : ∃ past w₁ w₂, past <+: log ∧
      doings past = past' ∧ Run limit client past w₁ ∧ Step limit w₁ (.did i deed) w₂ := by
  obtain ⟨past, future, rfl, hp⟩ := doings_eq_append_cons hd
  obtain ⟨w₁, w₂, early, step, -⟩ := h.split rfl
  exact ⟨past, w₁, w₂, List.prefix_append .., hp, early, step⟩

theorem Step.task_eq (step : Step limit w entry w') (h : entry.about ≠ some i) :
    w'.task i = w.task i := by
  cases step with
  | signal => rfl
  | call | enter | work | leave | drop | interrupt =>
    exact Function.update_of_ne (fun he => h (congrArg some he.symm)) ..

theorem Step.about_ne (step : Step limit w entry w') (gone : w.task i = .gone) :
    entry.about ≠ some i := by
  intro own
  cases step with
  | signal => cases own
  | call _ hj | enter hj | work hj | leave hj | drop hj | interrupt hj =>
    cases own
    cases gone.symm.trans hj

/-- A caller that has the client is the only one that does anything. -/
theorem Inv.doing?_eq_none (h : Inv limit log w) (hi : w.task i = .working errand progress)
    (step : Step limit w entry w') (other : entry.about ≠ some i) : entry.doing? = none := by
  cases step with
  | @work j _ _ _ _ _ hj _ =>
    have ne : j ≠ i := fun he => other (congrArg some he)
    exact absurd (h.working hj).1 (h.alone hi ne)
  | call | enter | leave | drop | interrupt | signal => rfl

/-- What a caller has to follow up was the last thing that was done. -/
theorem last_of_since {d : Deed κ} (hc : client.Coherent) (h : Run limit client log w)
    (hi : w.task i = .working errand progress) (hd : progress.since = some d) :
    ∃ earlier, doings log = earlier ++ [(i, d)] := by
  induction h generalizing errand with
  | nil => cases hi
  | @snoc log w w' entry run step ih =>
    -- Either the caller has just done it, or nobody has done anything since.
    by_cases own : entry.about = some i
    · cases step with
      | signal => cases own
      | call | leave | drop | interrupt =>
        cases own
        cases Guarded.put_task.symm.trans hi
      | enter =>
        cases own
        cases Guarded.put_task.symm.trans hi
        cases hd
      | work _ works =>
        cases own
        cases Guarded.put_task.symm.trans hi
        obtain ⟨-, rfl⟩ := works.since_eq_some_iff.mp hd
        exact ⟨doings log, doings_snoc⟩
    · rw [step.task_eq own] at hi
      rw [doings_snoc, (inv_of_run hc run).doing?_eq_none hi step own, Option.toList_none,
        List.append_nil]
      exact ih hi hd

/-- What was done last is followed up by its caller, unless it is dropped over a question. -/
theorem since_of_last {d : Deed κ} (h : Run limit client log w)
    (hd : doings log = past' ++ [(i, d)]) (opens : d.Opens) :
    (∃ errand progress, w.task i = .working errand progress ∧ progress.since = some d) ∨
      d.isAsk = true ∧ .dropped i ∈ log := by
  induction h with
  | nil => simp [doings] at hd
  | @snoc log w w' entry run step ih =>
    cases he : entry.doing? with
    | some doing =>
      rw [doings_snoc, he] at hd
      obtain rfl : doing = (i, d) := List.singleton_inj.mp (List.append_inj' hd rfl).2
      obtain rfl := LineEntry.eq_did_of_doing? he
      cases step with
      | @work _ errand _ progress' _ _ _ works =>
        exact Or.inl ⟨errand, progress', Guarded.put_task,
          works.since_eq_some_iff.mpr ⟨opens, rfl⟩⟩
    | none =>
      rw [doings_snoc, he, Option.toList_none, List.append_nil] at hd
      rcases ih hd with ⟨errand, progress, hi, hs⟩ | ⟨ask, dropped⟩
      · by_cases own : entry.about = some i
        · refine Or.inr ?_
          cases step with
          | signal => cases own
          | work => cases he
          | call _ hj | enter hj | drop hj =>
            cases own
            cases hj.symm.trans hi
          | leave hj =>
            cases own
            cases hj.symm.trans hi
            cases hs
          | interrupt hj awaits =>
            cases own
            cases hj.symm.trans hi
            exact ⟨awaits.isAsk hs, List.mem_append_right _ (List.mem_singleton_self _)⟩
        · exact Or.inl ⟨errand, progress, (step.task_eq own).trans hi, hs⟩
      · exact Or.inr ⟨ask, List.mem_append_left _ dropped⟩

/-- **Nobody comes in between** a question and its answer, or a dial that has succeeded and its
signals. -/
theorem follows (hc : client.Coherent) (h : Run limit client log w) {d e : Deed κ}
    (hd : doings log = past' ++ (i, d) :: (j, e) :: future') (opens : d.Opens) :
    j = i ∧ e.Closes d ∨ d.isAsk = true ∧ .dropped i ∈ log := by
  rw [List.append_cons] at hd
  obtain ⟨past, w₁, w₂, upTo, hp, early, step⟩ := step_of_doing h hd
  rcases since_of_last early hp opens with ⟨errand, progress, hi, hs⟩ | ⟨ask, dropped⟩
  · have inv := inv_of_run hc early
    by_cases own : j = i
    · subst own
      cases step with
      | work hj works =>
        cases hj.symm.trans hi
        exact Or.inl ⟨rfl, works.closes hs⟩
    · cases inv.doing?_eq_none hi step fun he => own (Option.some.inj he)
  · exact Or.inr ⟨ask, upTo.subset dropped⟩

/-- Every deed that follows another one up comes right after it. -/
theorem preceded (hc : client.Coherent) (h : Run limit client log w)
    (hd : doings log = past' ++ (i, deed) :: future') (closing : deed.Follows) :
    ∃ earlier d, past' = earlier ++ [(i, d)] ∧ deed.Closes d := by
  obtain ⟨past, w₁, w₂, -, rfl, early, step⟩ := step_of_doing h hd
  cases step with
  | work hi works =>
    obtain ⟨d, hs⟩ := works.since_of_follows closing
    obtain ⟨earlier, he⟩ := last_of_since hc early hi hs
    exact ⟨earlier, d, he, works.closes hs⟩

/-- A caller that has the client makes its way. -/
theorem run_works {deeds : List (Deed κ)} {s : RedialingClient κ × Progress κ errand}
    (h : Run limit client log w) (hi : w.task i = .working errand progress)
    (path : Logged (errand.Step limit) (w.value.client, progress) deeds s) :
    Run limit client (log ++ deeds.map (.did i))
      { w.put i (.working errand s.2) with value := ⟨s.1, w.value.queue⟩ } := by
  induction path with
  | nil =>
    rw [List.map_nil, List.append_nil, Guarded.put_self hi]
    exact h
  | snoc _ works ih =>
    have next := ih.snoc (.work Guarded.put_task works)
    rw [List.map_append, ← List.append_assoc]
    simpa [Guarded.put] using next

end Line

namespace Line.Sample

def request : Request := .call .gasPrice

def price : NodeAnswer request.Answer := .ok (7 : Amount)

def outage : NodeError := .unavailable "offline"

def listening : SignalRegistry := ⟨[.pending], [("listener", 0)]⟩

def fired : SignalRegistry := ⟨[.fired], []⟩

/-- It takes three dials and two calls to get an answer. -/
def deeds : List (Deed Nat) := [
  .dialed (.error outage),
  .rested,
  .dialed (.ok 5),
  .notified 1,
  .asked request 5,
  .heard request (.error outage),
  .dialed (.ok 6),
  .notified 0,
  .asked request 6,
  .heard request price]

abbrev CallStep (s : RedialingClient Nat × Progress Nat (.call request)) (deed : Deed Nat)
    (s' : RedialingClient Nat × Progress Nat (.call request)) : Prop :=
  (Errand.call request).Step (some 2) s deed s'

theorem answered_price : Logged CallStep (⟨some 6, .connected, fired⟩, .stage (.invoking 6))
    [.asked request 6, .heard request price] (⟨some 6, .connected, fired⟩, .ending price) := by
  have ask : CallStep (⟨some 6, .connected, fired⟩, .stage (.invoking 6)) (.asked request 6)
      (⟨some 6, .connected, fired⟩, .awaiting 6) := .ask
  exact (Logged.single ask).snoc (.answer rfl)

theorem path_deeds : Logged CallStep (⟨none, .reconnecting, listening⟩, .stage (.dialing 1)) deeds
    (⟨some 6, .connected, fired⟩, .ending price) := by
  have fail : CallStep (⟨none, .reconnecting, listening⟩, .stage (.dialing 1))
      (.dialed (.error outage)) (⟨none, .reconnecting, listening⟩, .stage (.pausing 2)) := .fail rfl
  have rest : CallStep (⟨none, .reconnecting, listening⟩, .stage (.pausing 2)) .rested
      (⟨none, .reconnecting, listening⟩, .stage (.dialing 2)) := .rest
  have establish : CallStep (⟨none, .reconnecting, listening⟩, .stage (.dialing 2))
      (.dialed (.ok 5)) (⟨some 5, .connected, listening⟩, .announcing 5) := .establish
  have resume : CallStep (⟨some 5, .connected, listening⟩, .announcing 5) (.notified 1)
      (⟨some 5, .connected, fired⟩, .stage (.invoking 5)) := .resume
  have ask : CallStep (⟨some 5, .connected, fired⟩, .stage (.invoking 5)) (.asked request 5)
      (⟨some 5, .connected, fired⟩, .awaiting 5) := .ask
  have lost : RedialingClient.answered ⟨some 5, .connected, fired⟩
      (.error outage : NodeAnswer request.Answer) = (⟨none, .failed, fired⟩, none) := rfl
  have retry : CallStep (⟨some 5, .connected, fired⟩, .awaiting 5) (.heard request (.error outage))
      (⟨none, .reconnecting, fired⟩, .stage (.dialing 1)) := .retry lost
  have establish' : CallStep (⟨none, .reconnecting, fired⟩, .stage (.dialing 1)) (.dialed (.ok 6))
      (⟨some 6, .connected, fired⟩, .announcing 6) := .establish
  have resume' : CallStep (⟨some 6, .connected, fired⟩, .announcing 6) (.notified 0)
      (⟨some 6, .connected, fired⟩, .stage (.invoking 6)) := .resume
  have dialed := ((Logged.single fail).snoc rest).snoc establish
  have refused := ((dialed.snoc resume).snoc ask).snoc retry
  exact ((refused.snoc establish').snoc resume').append answered_price

/-- The first caller makes its way, the second one finds a connection. -/
def entries : List (LineEntry Nat) :=
  [.signalled (.registered "listener" 0), .called 0 (.call request), .entered 0 (.call request),
    .called 1 (.call request)] ++ deeds.map (.did 0) ++
  [.returned 0 (.call request) price, .entered 1 (.call request), .did 1 (.asked request 6),
    .did 1 (.heard request price), .returned 1 (.call request) price]

theorem run_entries : ∃ w, Run (some 2) .unconnected entries w := by
  have run : Run (some 2) (.unconnected : RedialingClient Nat) [] _ := .nil
  have entered := ((run.snoc (.signal (.register "listener"))).snoc
    (.call (i := 0) (.call request) rfl)).snoc (.enter (i := 0) rfl rfl rfl)
  have waits := entered.snoc (.call (i := 1) (.call request) rfl)
  have worked := run_works (i := 0) waits rfl path_deeds
  have taken := (worked.snoc (.leave (i := 0) rfl)).snoc (.enter (i := 1) rfl rfl rfl)
  have heard := run_works (i := 1) taken rfl answered_price
  exact ⟨_, heard.snoc (.leave (i := 1) rfl)⟩

end Line.Sample

end PaymentChannel
