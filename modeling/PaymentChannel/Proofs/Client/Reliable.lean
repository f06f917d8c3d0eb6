import PaymentChannel.Proofs.Client.Line

/-!
# A client to rely on

As long as nobody is dropped, many callers of one client see it as each of them alone would see a
client that never loses its connection, except that an errand takes longer.

* `Line.ended_of_run` : how every errand has ended.
* `Line.renewed` : the connection is younger than the last unavailable answer.
* `Line.Reliable`, `Line.reliable_of_run` : **callers are served in order, each one until it has an
  answer that counts or the dials fail for too long.**
-/

namespace PaymentChannel

variable {κ : Type}

namespace Line

variable {limit : Option Nat} {w w' : Line κ} {i : Nat} {entry : LineEntry κ}
  {log past future : List (LineEntry κ)} {client : RedialingClient κ} {errand : Errand}
  {progress : Progress κ errand} {past' future' : List (Nat × Deed κ)}

/-- As long as nobody is dropped, nobody who waits is left out, and a client that nobody has says
whether it is connected. -/
theorem orderly_of_run (hc : client.Truthful) (h : Run limit client log w)
    (kept : ∀ i, .dropped i ∉ log) : entrants log ++ w.value.queue = callers log ∧
      (w.holder = none → w.value.client.Truthful) := by
  induction h with
  | nil => exact ⟨rfl, fun _ => hc⟩
  | @snoc log w w' entry run step ih =>
    obtain ⟨line, idle⟩ := ih fun i hm => kept i (List.mem_append_left _ hm)
    have inv := inv_of_run hc.coherent run
    rw [callers_snoc, entrants_snoc, ← line]
    cases step with
    | call => exact ⟨by simp [LineEntry.caller?, LineEntry.entrant?], idle⟩
    | enter _ _ first =>
      refine ⟨?_, (nomatch ·)⟩
      simp [LineEntry.caller?, LineEntry.entrant?, first]
    | work hi =>
      refine ⟨by simp [LineEntry.caller?, LineEntry.entrant?], fun free => ?_⟩
      cases (inv.working hi).1.symm.trans free
    | leave hi =>
      obtain ⟨-, -, -, -, agrees⟩ := inv.working hi
      refine ⟨by simp [LineEntry.caller?, LineEntry.entrant?, Guarded.freed, Guarded.put], ?_⟩
      exact fun _ => agrees
    | drop | interrupt =>
      exact absurd (List.mem_append_right _ (List.mem_singleton_self _)) (kept _)
    | signal => exact ⟨by simp [LineEntry.caller?, LineEntry.entrant?], idle⟩

theorem ended_of_run {result : NodeAnswer errand.Result} (hc : client.Coherent)
    (h : Run limit client log w) (hm : .returned i errand result ∈ log) :
    w.task i = .gone ∧ .called i errand ∈ log ∧ Ended limit errand (deedsOf i log) result := by
  induction h with
  | nil => cases hm
  | @snoc log w w' entry run step ih =>
    rcases List.mem_append.mp hm with hm | hm
    · obtain ⟨gone, called, ended⟩ := ih hm
      have other : entry.about ≠ some i := step.about_ne gone
      rw [deedsOf_other other]
      exact ⟨(step.task_eq other).trans gone, List.mem_append_left _ called, ended⟩
    · obtain rfl := List.mem_singleton.mp hm
      cases step with
      | leave hi =>
        obtain ⟨-, called, ended, -⟩ := (inv_of_run hc run).working hi
        rw [deedsOf_idle rfl]
        exact ⟨Guarded.put_task, List.mem_append_left _ called, ended⟩

/-- What a step does to the connection. -/
theorem Step.connection_cases (step : Step limit w entry w') :
    w'.value.client.connection = none ∨
      (∃ i c, entry = .did i (.dialed (.ok c)) ∧ w'.value.client.connection = some c) ∨
      w'.value.client.connection = w.value.client.connection ∧
        ∀ i request answer, entry = .did i (.heard request answer) → ¬Unavailable answer := by
  cases step with
  | call | leave | drop | interrupt | signal =>
    exact Or.inr (Or.inr ⟨rfl, fun _ _ _ => (nomatch ·)⟩)
  | @enter i errand queue hi free first =>
    rcases errand.start_cases w.value.client with ⟨_, c, -, -, he⟩ | he
    · refine Or.inr (Or.inr ⟨?_, fun _ _ _ => (nomatch ·)⟩)
      show (errand.start w.value.client).1.connection = _
      rw [he]
    · refine Or.inl ?_
      show (errand.start w.value.client).1.connection = _
      rw [he]
  | work hi works =>
    cases works with
    | retry answered =>
      obtain ⟨-, rfl⟩ := RedialingClient.answered_eq_none_iff.mp answered
      exact Or.inl rfl
    | answer answered =>
      obtain ⟨final, rfl, -⟩ := RedialingClient.answered_eq_some_iff.mp answered
      refine Or.inr (Or.inr ⟨rfl, fun _ _ _ he => ?_⟩)
      cases he
      exact final
    | establish => exact Or.inr (Or.inl ⟨_, _, rfl, rfl⟩)
    | fail dialed =>
      obtain ⟨-, rfl, -⟩ := RedialingClient.dialed_error_eq_again_iff.mp dialed
      exact Or.inr (Or.inr ⟨rfl, fun _ _ _ => (nomatch ·)⟩)
    | giveUp dialed =>
      obtain ⟨-, rfl, -⟩ := RedialingClient.dialed_error_eq_gaveUp_iff.mp dialed
      exact Or.inr (Or.inr ⟨rfl, fun _ _ _ => (nomatch ·)⟩)
    | ask | rest | resume | finish => exact Or.inr (Or.inr ⟨rfl, fun _ _ _ => (nomatch ·)⟩)

/-- Whatever connection there is after an unavailable answer has been dialed since. -/
theorem renewed {request : Request} {answer : NodeAnswer request.Answer} {c : κ}
    (h : Run limit client log w) (hd : doings log = past' ++ (i, .heard request answer) :: future')
    (vain : Unavailable answer) (held : w.value.client.connection = some c) :
    ∃ k, (k, .dialed (.ok c)) ∈ future' := by
  induction h generalizing future' with
  | nil => simp [doings] at hd
  | @snoc log w w' entry run step ih =>
    rw [doings_snoc] at hd
    -- The connection is either the one that has just been dialed, or the one from before.
    rcases step.connection_cases with lost | ⟨k, c', rfl, gained⟩ | ⟨same, counts⟩
    · cases lost.symm.trans held
    · cases gained.symm.trans held
      rcases snoc_eq_append_cons_iff.mp hd with ⟨-, he, -⟩ | ⟨before, rfl, -⟩
      · cases he
      · exact ⟨k, List.mem_append_right _ (List.mem_singleton_self _)⟩
    · cases he : entry.doing? with
      | none =>
        rw [he, Option.toList_none, List.append_nil] at hd
        exact ih hd (same ▸ held)
      | some doing =>
        rw [he] at hd
        rcases snoc_eq_append_cons_iff.mp hd with ⟨-, rfl, -⟩ | ⟨before, rfl, hb⟩
        · exact absurd vain (counts i request answer (LineEntry.eq_did_of_doing? he))
        · obtain ⟨k, hk⟩ := ih hb (same ▸ held)
          exact ⟨k, List.mem_append_left _ hk⟩

/-- A call is made over the connection of the client. -/
theorem connection_of_ask {request : Request} {c : κ} (hc : client.Coherent)
    (h : Run limit client past w) (step : Step limit w (.did i (.asked request c)) w') :
    .called i (.call request) ∈ past ∧ w.value.client.connection = some c := by
  cases step with
  | work hi works =>
    cases works with
    | ask =>
      obtain ⟨-, called, -, -, agrees⟩ := (inv_of_run hc h).working hi
      exact ⟨called, agrees.1⟩

/-- What a line of callers can rely on. -/
structure Reliable (limit : Option Nat) (log : List (LineEntry κ)) (w : Line κ) : Prop where
  /-- The callers take the client in the order in which they stand in line. -/
  fifo : entrants log ++ w.value.queue = callers log
  /-- They act one after the other. -/
  serial : doings log = (entrants log).flatMap fun i => (deedsOf i log).map (i, ·)
  /-- A call over a connection has its answer before anything else is done. -/
  alone : ∀ past i request c j deed future,
    doings log = past ++ (i, .asked request c) :: (j, deed) :: future →
      j = i ∧ ∃ answer, deed = .heard request answer
  /-- Callers ask for what they want themselves. -/
  own : ∀ i request c, (i, .asked request c) ∈ doings log → .called i (.call request) ∈ log
  /-- Every answer that is heard is the answer to the caller's own call. -/
  heard : ∀ past i request answer future,
    doings log = past ++ (i, .heard request answer) :: future →
      ∃ earlier c, past = earlier ++ [(i, .asked request c)]
  returned : ∀ i errand result, .returned i errand result ∈ log → .called i errand ∈ log
  /-- A call returns the first answer that counts. -/
  answered : ∀ i request result, .returned i (.call request) result ∈ log → ¬Unavailable result →
    (∃ earlier, deedsOf i log = earlier ++ [.heard request result] ∧ Refused earlier) ∧
      asks (deedsOf i log) = refusals (deedsOf i log) + 1
  inVain : ∀ i errand result, .returned i errand result ∈ log → Unavailable result →
    Refused (deedsOf i log) ∧ asks (deedsOf i log) = refusals (deedsOf i log)
  /-- An errand fails for want of a node exactly if the dials fail as often in a row as the limit
  says. -/
  unavailable_iff : ∀ i errand result, .returned i errand result ∈ log → (Unavailable result ↔
    ∃ n, limit = some n ∧ List.replicate (max 1 n) false <:+: dials (deedsOf i log))
  /-- An answer that counts ends the call. -/
  unretried : ∀ i request answer earlier later,
    deedsOf i log = earlier ++ .heard request answer :: later → ¬Unavailable answer →
      later = [] ∧ (.returned i (.call request) answer ∈ log ∨
        w.task i = .working (.call request) (.ending answer))
  /-- An unavailable answer costs the connection. -/
  discarded : ∀ past i request answer, log = past ++ [.did i (.heard request answer)] →
    Unavailable answer → w.value.client.connection = none
  /-- After an unavailable answer, nobody asks over a connection that has not been dialed since. -/
  redialed : ∀ past i request answer middle j request' c future, doings log =
      past ++ (i, .heard request answer) :: (middle ++ (j, .asked request' c) :: future) →
    Unavailable answer → ∃ k, (k, .dialed (.ok c)) ∈ middle
  /-- A client that nobody has says whether it is connected. -/
  truthful : w.holder = none →
    w.value.client.status = if w.value.client.connection.isSome then .connected else .failed
  /-- Whoever is first in line takes a client that is free. -/
  enters : ∀ i queue, w.holder = none → w.value.queue = i :: queue →
    ∃ errand w', Step limit w (.entered i errand) w'
  /-- Whoever has the client can go on. -/
  goesOn : ∀ i, w.holder = some i → (∃ deed w', Step limit w (.did i deed) w') ∨
    ∃ errand result w', Step limit w (.returned i errand result) w'
  /-- A caller takes every answer. -/
  takesAnswer : ∀ past i request c, doings log = past ++ [(i, .asked request c)] →
    ∀ answer, ∃ w', Step limit w (.did i (.heard request answer)) w'
  /-- A caller takes every outcome of a dial. -/
  takesDial : ∀ i outcome w', Step limit w (.did i (.dialed outcome)) w' →
    ∀ other, ∃ w'', Step limit w (.did i (.dialed other)) w''
  /-- Only unavailable answers and failed dials keep a caller busy. -/
  brief : ∀ i, (deedsOf i log).length ≤
    4 * refusals (deedsOf i log) + 2 * (dials (deedsOf i log)).count false + 4

/-- An answer that counts is the last deed of its caller, who returns it. -/
theorem ending_of_heard {request : Request} {answer : NodeAnswer request.Answer}
    {earlier later : List (Deed κ)} (hc : client.Coherent) (h : Run limit client log w)
    (kept : .dropped i ∉ log) (hd : deedsOf i log = earlier ++ .heard request answer :: later)
    (counts : ¬Unavailable answer) : later = [] ∧ (.returned i (.call request) answer ∈ log ∨
      w.task i = .working (.call request) (.ending answer)) := by
  have inv := inv_of_run hc h
  have busy : deedsOf i log ≠ [] := by simp [hd]
  cases hi : w.task i with
  | absent => exact absurd (inv.absent hi).2 busy
  | waiting => exact absurd (inv.waiting hi).2.1 busy
  | working errand progress =>
    obtain ⟨-, -, doing, -⟩ := inv.working hi
    have unheard (refused : Refused (deedsOf i log)) : False :=
      counts (refused.unavailable (by simp [hd]))
    cases progress with
    | ending result =>
      obtain ⟨last, he⟩ := Ended.heard_inv doing hd counts
      cases he
      exact ⟨last, Or.inr rfl⟩
    | stage | awaiting | announcing => exact absurd (Underway.refused doing) unheard
  | gone =>
    have known := inv.known i
    rw [hi] at known
    obtain ⟨errand, result, returned⟩ := known.1.resolve_right kept
    obtain ⟨-, -, ended⟩ := ended_of_run hc h returned
    obtain ⟨last, he⟩ := ended.heard_inv hd counts
    cases he
    exact ⟨last, Or.inl returned⟩

/-- **Callers are served in order, each one until it has an answer that counts or the dials fail for
too long.** -/
theorem reliable_of_run (opened : client.Opened) (h : Run limit client log w)
    (kept : ∀ i, .dropped i ∉ log) : Reliable limit log w := by
  have hc : client.Coherent := opened.truthful.coherent
  have inv := inv_of_run hc h
  obtain ⟨line, idle⟩ := orderly_of_run opened.truthful h kept
  constructor
  case fifo => exact line
  case serial => exact inv.serial
  case truthful => exact idle
  case brief => exact inv.short
  case alone =>
    intro past i request c j deed future hd
    rcases follows hc h hd trivial with ⟨own, closes⟩ | ⟨-, dropped⟩
    · cases closes
      exact ⟨own, _, rfl⟩
    · exact absurd dropped (kept i)
  case own =>
    intro i request c hm
    obtain ⟨past', future', hd⟩ := List.append_of_mem hm
    obtain ⟨past, w₁, w₂, upTo, -, early, step⟩ := step_of_doing h hd
    exact upTo.subset (connection_of_ask hc early step).1
  case heard =>
    intro past i request answer future hd
    obtain ⟨earlier, d, rfl, closes⟩ := preceded hc h hd trivial
    cases closes
    exact ⟨earlier, _, rfl⟩
  case returned =>
    intro i errand result hm
    obtain ⟨-, called, -⟩ := ended_of_run hc h hm
    exact called
  case answered =>
    intro i request result hm counts
    obtain ⟨-, -, ended⟩ := ended_of_run hc h hm
    exact ended.answered_inv counts
  case inVain =>
    intro i errand result hm vain
    obtain ⟨-, -, ended⟩ := ended_of_run hc h hm
    exact ended.unavailable_inv vain
  case unavailable_iff =>
    intro i errand result hm
    obtain ⟨-, -, ended⟩ := ended_of_run hc h hm
    exact ended.unavailable_iff
  case unretried =>
    intro i request answer earlier later hd counts
    exact ending_of_heard hc h (kept i) hd counts
  case discarded =>
    rintro past i request answer rfl vain
    obtain ⟨w₁, -, step⟩ := h.last_step
    rcases step.connection_cases with lost | ⟨k, c, he, -⟩ | ⟨-, counts⟩
    · exact lost
    · cases he
    · exact absurd vain (counts i request answer rfl)
  case redialed =>
    intro past' i request answer middle j request' c future' hd vain
    rw [← List.cons_append, ← List.append_assoc] at hd
    obtain ⟨past, w₁, w₂, -, hp, early, step⟩ := step_of_doing h hd
    exact renewed early hp vain (connection_of_ask hc early step).2
  case enters =>
    intro i queue free first
    obtain ⟨errand, hi⟩ := (inv.queued i).mp (first ▸ List.mem_cons_self)
    exact ⟨errand, _, .enter hi free first⟩
  case goesOn =>
    intro i holds
    obtain ⟨errand, progress, hi⟩ := inv.holds i holds
    obtain ⟨-, -, doing, -⟩ := inv.working hi
    rcases doing.exists_works w.value.client with ⟨result, rfl⟩ | ⟨deed, client', progress', works⟩
    · exact Or.inr ⟨errand, result, _, .leave hi⟩
    · exact Or.inl ⟨deed, _, .work hi works⟩
  case takesAnswer =>
    intro past i request c hd answer
    rcases since_of_last h hd trivial with ⟨errand, progress, hi, hs⟩ | ⟨-, dropped⟩
    · cases since_eq_asked_iff.mp hs
      obtain ⟨client', progress', works⟩ := exists_works_heard answer
      exact ⟨_, .work hi works⟩
    · exact absurd dropped (kept i)
  case takesDial =>
    intro i outcome w' step other
    cases step with
    | work hi works =>
      cases works with
      | establish | fail | giveUp =>
        obtain ⟨client', progress', works⟩ := exists_works_dialed other
        exact ⟨_, .work hi works⟩

theorem reliable_sample : ∃ w, Run (some 2) .unconnected Sample.entries w ∧
    (∀ i, .dropped i ∉ Sample.entries) ∧ Reliable (some 2) Sample.entries w := by
  obtain ⟨w, run⟩ := Sample.run_entries
  have kept : ∀ i, .dropped i ∉ Sample.entries := by
    intro i
    simp [Sample.entries, Sample.deeds]
  exact ⟨w, run, kept, reliable_of_run .unconnected run kept⟩

end Line

end PaymentChannel
