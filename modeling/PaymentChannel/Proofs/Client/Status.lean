import PaymentChannel.Proofs.Client.Line

/-!
# What a client says about its connection

A caller that dials lets the status of the client say so, and corrects it wherever it comes to an
end.  A caller that is dropped comes to no end: if it dialed, then the status goes on saying that
somebody dials until the next caller takes the client.

* `Line.Redials`, `Line.Idle` : who dials, and whether there is any call at all.
* `Line.Honest` : the status is what it is taken for.
* `Line.Abandoned` : a caller was dropped over a dial, and nobody has taken the client since.
* `Line.reconnecting_cases` : if the client says that somebody dials, then somebody does or did.
* `Line.Status`, `Line.status_of_run` : **the status is what it is taken for unless a dial has been
  abandoned.**
* `Line.Sample.abandoned_dishonest` : one dial is enough for that.
-/

namespace PaymentChannel

variable {κ : Type}

namespace RedialingClient

theorem truthful_iff {client : RedialingClient κ} :
    client.Truthful ↔ client.Coherent ∧ client.status ≠ .reconnecting := by
  unfold Truthful Coherent
  cases client.connection <;> cases client.status <;> simp

end RedialingClient

open RedialingClient

namespace Progress

/-- The caller dials, or waits until it may dial again. -/
def Redials {errand : Errand} : Progress κ errand → Prop
  | stage (.dialing _) | stage (.pausing _) => True
  | _ => False

end Progress

section

variable {errand : Errand} {client : RedialingClient κ} {progress : Progress κ errand}

theorem Agrees.reconnecting_iff (h : Agrees client progress) :
    client.status = .reconnecting ↔ progress.Redials := by
  cases progress with
  | ending result => exact iff_of_false (truthful_iff.mp h).2 id
  | awaiting c | announcing c =>
    rw [h.2]
    exact iff_of_false (nomatch ·) id
  | stage s =>
    cases s with
    | invoking c =>
      rw [h.2]
      exact iff_of_false (nomatch ·) id
    | dialing attempt | pausing attempt => exact iff_of_true h.2 trivial

theorem Agrees.unconnected (h : Agrees client progress) (dials : progress.Redials) :
    client.connection = none := by
  cases progress with
  | ending | awaiting | announcing => cases dials
  | stage s =>
    cases s with
    | invoking => cases dials
    | dialing | pausing => exact h.1

end

namespace Line

variable {limit : Option Nat} {w w' : Line κ} {i : Nat} {entry : LineEntry κ}
  {log : List (LineEntry κ)} {client : RedialingClient κ} {errand : Errand}

/-- The caller has the client and dials. -/
def Redials (w : Line κ) (i : Nat) : Prop :=
  ∃ errand progress, w.task i = .working errand progress ∧ progress.Redials

/-- No call is in progress. -/
def Idle (w : Line κ) : Prop := ∀ i, w.task i = .absent ∨ w.task i = .gone

/-- The status of the client is what it is taken for. -/
structure Honest (w : Line κ) : Prop where
  reconnecting : w.value.client.status = .reconnecting → ∃ i, w.Redials i
  idle : w.Idle →
    w.value.client.status = if w.value.client.connection.isSome then .connected else .failed

/-- A caller was dropped over a dial, and nobody has taken the client since. -/
inductive Abandoned (limit : Option Nat) (client : RedialingClient κ) :
    List (LineEntry κ) → Line κ → Prop
  | drop {log : List (LineEntry κ)} {w w' : Line κ} {i : Nat} (run : Run limit client log w)
      (dials : w.Redials i) (step : Step limit w (.dropped i) w') :
      Abandoned limit client (log ++ [.dropped i]) w'
  | wait {log : List (LineEntry κ)} {w w' : Line κ} {entry : LineEntry κ}
      (abandoned : Abandoned limit client log w) (step : Step limit w entry w')
      (untaken : entry.entrant? = none) : Abandoned limit client (log ++ [entry]) w'

/-! ## Who dials, and what the client says -/

theorem Inv.redials (h : Inv limit log w) (hi : w.Redials i) :
    w.holder = some i ∧ w.value.client.connection = none ∧
      w.value.client.status = .reconnecting := by
  obtain ⟨errand, progress, hw, dials⟩ := hi
  obtain ⟨holder, -, -, -, agrees⟩ := h.working hw
  exact ⟨holder, agrees.unconnected dials, agrees.reconnecting_iff.mpr dials⟩

theorem Inv.not_redials (h : Inv limit log w) (free : w.holder = none) (i : Nat) :
    ¬w.Redials i := by
  intro dials
  cases (h.redials dials).1.symm.trans free

theorem Inv.agrees (h : Inv limit log w) (holds : w.holder = some i) :
    ∃ errand progress, w.task i = .working errand progress ∧ Agrees w.value.client progress := by
  obtain ⟨errand, progress, hi⟩ := h.holds i holds
  obtain ⟨-, -, -, -, agrees⟩ := h.working hi
  exact ⟨errand, progress, hi, agrees⟩

/-- Who has the client dials if the client says so. -/
theorem Inv.redials_of_reconnecting (h : Inv limit log w) (holds : w.holder = some i)
    (told : w.value.client.status = .reconnecting) : w.Redials i := by
  obtain ⟨errand, progress, hi, agrees⟩ := h.agrees holds
  exact ⟨errand, progress, hi, agrees.reconnecting_iff.mp told⟩

theorem Inv.free_of_idle (h : Inv limit log w) (idle : w.Idle) : w.holder = none := by
  cases ho : w.holder with
  | none => rfl
  | some i =>
    obtain ⟨errand, progress, hi⟩ := h.holds i ho
    rcases idle i with absent | gone
    · cases hi.symm.trans absent
    · cases hi.symm.trans gone

theorem Inv.coherent (h : Inv limit log w) : w.value.client.Coherent := by
  cases ho : w.holder with
  | none => exact h.idle ho
  | some i =>
    obtain ⟨errand, progress, -, agrees⟩ := h.agrees ho
    exact agrees.coherent

/-- A client that nobody has stays as it is until somebody takes it. -/
theorem Inv.untouched (h : Inv limit log w) (free : w.holder = none)
    (step : Step limit w entry w') (untaken : entry.entrant? = none) : w'.holder = none ∧
      w'.value.client.connection = w.value.client.connection ∧
      w'.value.client.status = w.value.client.status := by
  cases step with
  | call | drop | signal => exact ⟨free, rfl, rfl⟩
  | enter => cases untaken
  | work hi | leave hi | interrupt hi => cases (h.working hi).1.symm.trans free

/-! ## Abandoned dials -/

theorem Abandoned.run (h : Abandoned limit client log w) : Run limit client log w := by
  induction h with
  | drop run _ step => exact run.snoc step
  | wait _ step _ ih => exact ih.snoc step

/-- The client says that somebody dials, and nobody has it. -/
theorem Abandoned.stuck (hc : client.Coherent) (h : Abandoned limit client log w) :
    w.holder = none ∧ w.value.client.connection = none ∧
      w.value.client.status = .reconnecting := by
  induction h with
  | @drop log w w' i run dials step =>
    obtain ⟨holder, connection, status⟩ := (inv_of_run hc run).redials dials
    cases step with
    | drop hi =>
      obtain ⟨errand, progress, hw, -⟩ := dials
      cases hi.symm.trans hw
    | interrupt => exact ⟨if_pos holder, connection, status⟩
  | wait abandoned step untaken ih =>
    obtain ⟨free, connection, status⟩ := ih
    obtain ⟨free', connection', status'⟩ :=
      (inv_of_run hc abandoned.run).untouched free step untaken
    exact ⟨free', connection'.trans connection, status'.trans status⟩

/-- If the client says that somebody dials, then somebody does, or was dropped over it. -/
theorem reconnecting_cases (hc : client.Truthful) (h : Run limit client log w)
    (told : w.value.client.status = .reconnecting) :
    (∃ i, w.Redials i) ∨ Abandoned limit client log w := by
  induction h with
  | nil => exact absurd told (truthful_iff.mp hc).2
  | @snoc log w w' entry run step ih =>
    have inv := inv_of_run hc.coherent run
    cases ho : w'.holder with
    | some i => exact Or.inl ⟨i, (inv.step step).redials_of_reconnecting ho told⟩
    | none =>
      refine Or.inr ?_
      cases before : w.holder with
      | none =>
        have untaken : entry.entrant? = none := by
          cases step with
          | enter => cases ho
          | call | work | leave | drop | interrupt | signal => rfl
        obtain ⟨-, -, same⟩ := inv.untouched before step untaken
        rcases ih (same.symm.trans told) with ⟨j, dials⟩ | abandoned
        · exact absurd dials (inv.not_redials before j)
        · exact abandoned.wait step untaken
      | some i =>
        -- Whoever had the client has left it, or was dropped.
        cases step with
        | call | work | drop | signal => cases before.symm.trans ho
        | enter => cases ho
        | leave hi =>
          obtain ⟨-, -, -, -, agrees⟩ := inv.working hi
          exact absurd told (truthful_iff.mp agrees).2
        | interrupt hi awaits =>
          have dials := inv.redials_of_reconnecting (inv.working hi).1 told
          exact .drop run dials (.interrupt hi awaits)

/-- Whoever takes a client without a connection dials. -/
theorem Step.redials_of_entered (step : Step limit w (.entered i errand) w')
    (lost : w.value.client.connection = none) : w'.Redials i := by
  cases step with
  | enter =>
    refine ⟨errand, _, Guarded.put_task, ?_⟩
    rcases errand.start_cases w.value.client with ⟨_, c, -, held, -⟩ | he
    · cases lost.symm.trans held
    · rw [he]
      trivial

/-! ## The status along a run -/

/-- What the status of a client says, wherever its callers give up. -/
structure Status (limit : Option Nat) (client : RedialingClient κ) (log : List (LineEntry κ))
    (w : Line κ) : Prop where
  connected_iff : w.value.client.status = .connected ↔ w.value.client.connection.isSome
  reconnecting_iff : w.value.client.status = .reconnecting ↔
    (∃ i, w.Redials i) ∨ Abandoned limit client log w
  honest_iff : Honest w ↔ ¬Abandoned limit client log w
  /-- Nobody makes up for an abandoned dial before the next caller takes the client. -/
  free : Abandoned limit client log w → w.holder = none ∧ w.value.client.connection = none
  mended : Abandoned limit client log w →
    ∀ i errand w', Step limit w (.entered i errand) w' → w'.Redials i

theorem honest_iff_not_abandoned (hc : client.Truthful) (h : Run limit client log w) :
    Honest w ↔ ¬Abandoned limit client log w := by
  have inv := inv_of_run hc.coherent h
  constructor
  · intro honest abandoned
    obtain ⟨free, -, told⟩ := abandoned.stuck hc.coherent
    obtain ⟨i, dials⟩ := honest.reconnecting told
    exact inv.not_redials free i dials
  · intro kept
    refine ⟨fun told => (reconnecting_cases hc h told).resolve_right kept, fun idle => ?_⟩
    refine truthful_iff.mpr ⟨inv.coherent, fun told => ?_⟩
    obtain ⟨i, dials⟩ := (reconnecting_cases hc h told).resolve_right kept
    exact inv.not_redials (inv.free_of_idle idle) i dials

/-- **The status of a client is what it is taken for exactly if no dial has been abandoned** since
somebody took the client last. -/
theorem status_of_run (opened : client.Opened) (h : Run limit client log w) :
    Status limit client log w := by
  have hc : client.Truthful := opened.truthful
  have inv := inv_of_run hc.coherent h
  constructor
  case connected_iff => exact inv.coherent
  case reconnecting_iff =>
    refine ⟨reconnecting_cases hc h, ?_⟩
    rintro (⟨i, dials⟩ | abandoned)
    · exact (inv.redials dials).2.2
    · exact (abandoned.stuck hc.coherent).2.2
  case honest_iff => exact honest_iff_not_abandoned hc h
  case free =>
    intro abandoned
    obtain ⟨free, lost, -⟩ := abandoned.stuck hc.coherent
    exact ⟨free, lost⟩
  case mended =>
    intro abandoned i errand w' step
    exact step.redials_of_entered (abandoned.stuck hc.coherent).2.1

namespace Sample

/-- The only caller is dropped over its first dial. -/
def givenUp : List (LineEntry Nat) :=
  [.called 0 (.call request), .entered 0 (.call request), .dropped 0]

theorem run_givenUp : ∃ w, Run (some 2) .unconnected givenUp w ∧ w.Idle ∧
    w.value.client.connection = none ∧ w.value.client.status = .reconnecting := by
  have run : Run (some 2) (.unconnected : RedialingClient Nat) [] _ := .nil
  have dials := (run.snoc (.call (i := 0) (.call request) rfl)).snoc (.enter (i := 0) rfl rfl rfl)
  refine ⟨_, dials.snoc (.interrupt (i := 0) rfl trivial), fun i => ?_, rfl, rfl⟩
  by_cases hi : i = 0 <;> simp [Guarded.put, Guarded.freed, fresh, hi]

end Sample

theorem status_of_givenUp : ∃ w, (RedialingClient.unconnected : RedialingClient Nat).Opened ∧
    Run (some 2) .unconnected Sample.givenUp w ∧
      Status (some 2) .unconnected Sample.givenUp w := by
  obtain ⟨w, run, -⟩ := Sample.run_givenUp
  exact ⟨w, .unconnected, run, status_of_run .unconnected run⟩

/-- No call is in progress, there is no connection, and the client says that somebody dials. -/
theorem Sample.abandoned_dishonest : ∃ w, Run (some 2) .unconnected givenUp w ∧ w.Idle ∧
    w.value.client.connection = none ∧ w.value.client.status = .reconnecting ∧
    (∀ i, ¬w.Redials i) ∧ ¬Honest w := by
  obtain ⟨w, run, idle, lost, told⟩ := run_givenUp
  have inv := inv_of_run RedialingClient.Opened.unconnected.truthful.coherent run
  have alone := inv.not_redials (inv.free_of_idle idle)
  refine ⟨w, run, idle, lost, told, alone, fun honest => ?_⟩
  obtain ⟨i, dials⟩ := honest.reconnecting told
  exact alone i dials

end Line

end PaymentChannel
