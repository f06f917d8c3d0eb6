import PaymentChannel.Proofs.Account.Move
import PaymentChannel.Proofs.Client.Line
import PaymentChannel.Scenario.Run

/-!
# Scripted runs are paths

* `Scenario.path_of_run` : a dialogue that is run against a scripted node takes one of its paths.
* `Scenario.submit_path` : so does a step of our own, unless it is not confirmed in time.
* `Scenario.forward_path`, `Scenario.recoverDisconnect_path` : what a client does on a script is
  what a caller can do with it.  `Scenario.forward_run` : a line of one caller.
-/

namespace PaymentChannel

open AccountDialogue

namespace Scenario

variable {α β : Type} {interval : Duration} {s s' : Scenario}

theorem bind_eq_ok_iff {x : ScenarioM α} {f : α → ScenarioM β} {b : β} :
    (x >>= f).run.run s = (.ok b, s') ↔
      ∃ a s₁, x.run.run s = (.ok a, s₁) ∧ (f a).run.run s₁ = (.ok b, s') := by
  have split : (x >>= f).run.run s = match x.run.run s with
      | (.ok a, s₁) => (f a).run.run s₁
      | (.error e, s₁) => (.error e, s₁) := by
    rw [ExceptT.run_bind, StateT.run_bind]
    rcases x.run.run s with ⟨e | a, s₁⟩ <;> rfl
  rw [split]
  rcases x.run.run s with ⟨e | a, s₁⟩
  · exact ⟨(nomatch ·), fun ⟨_, _, h, _⟩ => nomatch h⟩
  · constructor
    · exact fun h => ⟨a, s₁, rfl, h⟩
    · rintro ⟨_, _, h, g⟩
      cases h
      exact g

theorem pollReceipt_path {hash : Hash} {polls : Nat} {result : NodeAnswer Receipt}
    (h : (pollReceipt interval hash polls).run.run s = (.ok result, s'))
    (next : NodeAnswer Receipt → AccountDialogue α) :
    ∃ moves, Path (.ask (.awaitReceipt hash) next) moves (next result) := by
  induction polls generalizing s with
  | zero => cases h
  | succ polls ih =>
    obtain ⟨answer, s₁, -, h⟩ := bind_eq_ok_iff.mp h
    split at h
    · next ends =>
      cases h
      exact ⟨_, .single (.awaited hash next ends)⟩
    · next late =>
      -- One more poll of the same question.
      obtain ⟨-, s₂, -, h⟩ := bind_eq_ok_iff.mp h
      obtain ⟨moves, path⟩ := ih h
      exact ⟨_, .cons (.polled hash next late) path⟩

theorem path_of_run {d : AccountDialogue α} {a : α}
    (h : (run interval d).run.run s = (.ok a, s')) : ∃ moves, Path d moves (.done a) := by
  induction d generalizing s with
  | done b =>
    cases h
    exact ⟨[], .nil⟩
  | ask question next ih =>
    obtain ⟨answer, s₁, asked, h⟩ := bind_eq_ok_iff.mp h
    obtain ⟨moves, path⟩ := ih answer h
    cases question with
    | call nodeCall => exact ⟨_, .cons (.heard nodeCall answer next) path⟩
    | awaitReceipt hash =>
      obtain ⟨scenario, s₂, -, polled⟩ := bind_eq_ok_iff.mp asked
      obtain ⟨before, waited⟩ := pollReceipt_path polled next
      exact ⟨_, waited.append path⟩
    | reserveNonce => exact ⟨_, .cons (.reserved answer next) path⟩
    | commitNonce => exact ⟨_, .cons (.committed next) path⟩
    | releaseNonce => exact ⟨_, .cons (.released next) path⟩

/-- A computation that is in time has run to its end. -/
theorem run_of_within {milliseconds : Nat} {x : ScenarioM α} {a : α}
    (h : (within milliseconds x).run.run s = (.ok (some a), s')) :
    ∃ s₁ s₂, x.run.run s₁ = (.ok a, s₂) := by
  obtain ⟨_, s₁, -, h⟩ := bind_eq_ok_iff.mp h
  obtain ⟨_, s₂, -, h⟩ := bind_eq_ok_iff.mp h
  obtain ⟨result, s₃, ran, h⟩ := bind_eq_ok_iff.mp h
  obtain ⟨_, s₄, -, h⟩ := bind_eq_ok_iff.mp h
  have ended : x.run.run s₂ = (result, s₃) := by
    obtain ⟨value, state⟩ := Prod.mk.inj ran
    exact Prod.ext (Except.ok.inj value) state
  cases result with
  | ok value =>
    cases h
    exact ⟨s₂, s₃, ended⟩
  | error e => cases e <;> cases h

/-- A step of our own that is taken in a scenario ends as one of its paths does, or without a
result. -/
theorem submit_path {service service' : DisputeService} {identifier : Hash} {change : StateChange}
    {c : Channel} {result : Except ServiceError (List Hash)}
    (hc : service.channel identifier = .ok c)
    (h : (submit interval service identifier change).run.run s = (.ok (result, service'), s')) :
    ∃ answer, service.conclude identifier change answer = (result, service') ∧
      ∀ r, answer = some r → ∃ moves, Path (c.submit service.key change).run moves (.done r) := by
  unfold submit at h
  rw [hc] at h
  obtain ⟨answer, s₁, timed, h⟩ := bind_eq_ok_iff.mp h
  refine ⟨answer, Except.ok.inj (congrArg Prod.fst h), ?_⟩
  rintro r rfl
  obtain ⟨s₂, s₃, ran⟩ := run_of_within timed
  exact path_of_run ran

/-! ## A client that redials -/

section

variable {config : ChainClientConfig} {client client' : RedialingClient Unit} {errand : Errand}

theorem client_bind_eq_ok_iff {x : ClientM α} {f : α → ClientM β} {b : β} :
    ((x >>= f).run client).run.run s = (.ok (b, client'), s') ↔
      ∃ a client₁ s₁, (x.run client).run.run s = (.ok (a, client₁), s₁) ∧
        ((f a).run client₁).run.run s₁ = (.ok (b, client'), s') := by
  rw [StateT.run_bind, bind_eq_ok_iff]
  constructor
  · rintro ⟨⟨a, client₁⟩, s₁, h, g⟩
    exact ⟨a, client₁, s₁, h, g⟩
  · rintro ⟨a, client₁, s₁, h, g⟩
    exact ⟨(a, client₁), s₁, h, g⟩

theorem change_eq_ok_iff {step : RedialingClient Unit → RedialingClient Unit × α} {a : α} :
    ((change step).run client).run.run s = (.ok (a, client'), s') ↔
      step client = (client', a) ∧ s' = s := by
  show ((.ok (step client).swap, s) : Except Interruption (α × _) × Scenario) = _ ↔ _
  rcases step client with ⟨client₁, a₁⟩
  simp [eq_comm, and_comm]

theorem client_lift_eq_ok_iff {x : ScenarioM α} {a : α} :
    ((liftM x : ClientM α).run client).run.run s = (.ok (a, client'), s') ↔
      x.run.run s = (.ok a, s') ∧ client' = client := by
  show ((x >>= fun a => pure (a, client) : ScenarioM _)).run.run s = _ ↔ _
  rw [bind_eq_ok_iff]
  constructor
  · rintro ⟨a', s₁, h, g⟩
    cases g
    exact ⟨h, rfl⟩
  · rintro ⟨h, rfl⟩
    exact ⟨a, s', h, rfl⟩

/-- Dials, up to the signals of the client or to the end of the errand. -/
def DialPath (config : ChainClientConfig) (errand : Errand) (client : RedialingClient Unit)
    (attempt : Nat) (result : NodeAnswer Unit) (client' : RedialingClient Unit) : Prop :=
  (∃ deeds connected, Logged (errand.Step config.maxReconnectAttempts)
    (client, .stage (.dialing attempt)) deeds (connected, .announcing ()) ∧
      client' = connected.announce.2 ∧ result = .ok ()) ∨
    ∃ deeds e, Logged (errand.Step config.maxReconnectAttempts)
      (client, .stage (.dialing attempt)) deeds (client', .ending (.error e)) ∧ result = .error e

theorem dialUpTo_path {dials attempt : Nat} {result : NodeAnswer Unit}
    (h : ((dialUpTo config dials attempt).run client).run.run s = (.ok (result, client'), s')) :
    DialPath config errand client attempt result client' := by
  induction dials generalizing client attempt s with
  | zero => cases h
  | succ dials ih =>
    obtain ⟨outcome, client₁, s₁, performed, h⟩ := client_bind_eq_ok_iff.mp h
    obtain ⟨-, same⟩ := client_lift_eq_ok_iff.mp performed
    obtain ⟨next, client₂, s₂, changed, h⟩ := client_bind_eq_ok_iff.mp h
    obtain ⟨dialed, -⟩ := change_eq_ok_iff.mp changed
    subst same
    cases outcome with
    | ok c =>
      cases dialed
      cases h
      exact Or.inl ⟨_, _, .single .establish, rfl, rfl⟩
    | error e =>
      cases next with
      | established c =>
        rw [RedialingClient.dialed] at dialed
        split at dialed <;> cases dialed
      | gaveUp error =>
        cases h
        exact Or.inr ⟨_, error, .single (.giveUp dialed), rfl⟩
      | again next =>
        obtain ⟨_, client₃, s₃, waited, later⟩ := client_bind_eq_ok_iff.mp h
        obtain ⟨-, same⟩ := client_lift_eq_ok_iff.mp waited
        subst same
        have fail : errand.Step config.maxReconnectAttempts (client₁, .stage (.dialing attempt))
          (.dialed (.error e)) (client₃, .stage (.pausing next)) := .fail dialed
        have rest : errand.Step config.maxReconnectAttempts (client₃, .stage (.pausing next))
          .rested (client₃, .stage (.dialing next)) := .rest
        have failed := (Logged.single fail).snoc rest
        rcases ih later with ⟨deeds, connected, path, rest⟩ | ⟨deeds, error, path, rest⟩
        · exact Or.inl ⟨_, connected, failed.append path, rest⟩
        · exact Or.inr ⟨_, error, failed.append path, rest⟩

theorem dial_path (errand : Errand) {attempt : Nat} {result : NodeAnswer Unit}
    (h : ((dial config attempt).run client).run.run s = (.ok (result, client'), s')) :
    DialPath config errand client attempt result client' := by
  obtain ⟨scenario, client₁, s₁, read, h⟩ := client_bind_eq_ok_iff.mp h
  cases read
  exact dialUpTo_path h

/-- A call over a connection, and what comes next. -/
theorem invoke_path {request : Request} {answer : NodeAnswer request.Answer}
    {again : ClientM (NodeAnswer request.Answer)}
    (later : ∀ {client : RedialingClient Unit} {s : Scenario},
      (again.run client).run.run s = (.ok (answer, client'), s') →
        ∃ deeds, Logged ((Errand.call request).Step config.maxReconnectAttempts)
          (client.begin.1, .stage client.begin.2) deeds (client', .ending answer))
    (h : (StateT.run (do
        let answer ← liftM (perform request)
        match ← change fun client => client.answered answer with
        | some answer => pure answer
        | none => again : ClientM (NodeAnswer request.Answer)) client).run.run s =
      (.ok (answer, client'), s')) :
    ∃ deeds, Logged ((Errand.call request).Step config.maxReconnectAttempts)
      (client, .stage (.invoking ())) deeds (client', .ending answer) := by
  obtain ⟨heard, client₁, s₁, performed, h⟩ := client_bind_eq_ok_iff.mp h
  obtain ⟨-, same⟩ := client_lift_eq_ok_iff.mp performed
  obtain ⟨result?, client₂, s₂, changed, h⟩ := client_bind_eq_ok_iff.mp h
  obtain ⟨answered, -⟩ := change_eq_ok_iff.mp changed
  subst same
  have ask : (Errand.call request).Step config.maxReconnectAttempts
      (client₁, .stage (.invoking ())) (.asked request ()) (client₁, .awaiting ()) := .ask
  cases result? with
  | some result =>
    cases h
    have ends : (Errand.call request).Step config.maxReconnectAttempts (client₁, .awaiting ())
      (.heard request heard) (client', .ending answer) := .answer answered
    exact ⟨_, (Logged.single ask).snoc ends⟩
  | none =>
    obtain ⟨deeds, path⟩ := later h
    have retry : (Errand.call request).Step config.maxReconnectAttempts (client₁, .awaiting ())
      (.heard request heard) (client₂.begin.1, .stage client₂.begin.2) := .retry answered
    exact ⟨_, ((Logged.single ask).snoc retry).append path⟩

theorem callUpTo_path {request : Request} {calls : Nat} {answer : NodeAnswer request.Answer}
    (h : ((callUpTo config request calls).run client).run.run s = (.ok (answer, client'), s')) :
    ∃ deeds, Logged ((Errand.call request).Step config.maxReconnectAttempts)
      (client.begin.1, .stage client.begin.2) deeds (client', .ending answer) := by
  induction calls generalizing client s with
  | zero => cases h
  | succ calls ih =>
    obtain ⟨stage, client₁, s₁, changed, h⟩ := client_bind_eq_ok_iff.mp h
    obtain ⟨begun, -⟩ := change_eq_ok_iff.mp changed
    rw [begun]
    cases stage with
    | invoking c => exact invoke_path ih h
    | pausing attempt =>
      unfold RedialingClient.begin at begun
      split at begun <;> cases begun
    | dialing attempt =>
      obtain ⟨result, client₂, s₂, dialed, h⟩ := client_bind_eq_ok_iff.mp h
      rcases dial_path (.call request) dialed with
        ⟨deeds, connected, path, rfl, rfl⟩ | ⟨deeds, e, path, rfl⟩
      · obtain ⟨deeds', path'⟩ := invoke_path ih h
        exact ⟨_, (path.snoc .resume).append path'⟩
      · cases h
        exact ⟨_, path⟩

/-- **A call through a client goes as an errand does.** -/
theorem forward_path {request : Request} {answer : NodeAnswer request.Answer}
    (h : ((forward config request).run client).run.run s = (.ok (answer, client'), s')) :
    ∃ deeds, Logged ((Errand.call request).Step config.maxReconnectAttempts)
      (((Errand.call request).start client).1, .stage ((Errand.call request).start client).2) deeds
      (client', .ending answer) := by
  obtain ⟨scenario, client₁, s₁, read, h⟩ := client_bind_eq_ok_iff.mp h
  cases read
  exact callUpTo_path h

theorem recoverDisconnect_path {result : NodeAnswer Unit}
    (h : ((recoverDisconnect config).run client).run.run s = (.ok (result, client'), s')) :
    ∃ deeds, Logged (Errand.redial.Step config.maxReconnectAttempts)
      ((Errand.redial.start client).1, .stage (Errand.redial.start client).2) deeds
      (client', .ending result) := by
  obtain ⟨stage, client₁, s₁, changed, h⟩ := client_bind_eq_ok_iff.mp h
  obtain ⟨begun, -⟩ := change_eq_ok_iff.mp changed
  cases begun
  rcases dial_path .redial h with
    ⟨deeds, connected, path, rfl, rfl⟩ | ⟨deeds, e, path, rfl⟩
  · exact ⟨_, path.snoc .finish⟩
  · exact ⟨_, path⟩

/-- A call through a client that nobody else uses. -/
theorem forward_run {request : Request} {answer : NodeAnswer request.Answer}
    (h : ((forward config request).run client).run.run s = (.ok (answer, client'), s')) :
    ∃ (deeds : List (Deed Unit)) (w : Line Unit), w.value.client = client' ∧
      Line.Run config.maxReconnectAttempts client
        ([.called 0 (.call request), .entered 0 (.call request)] ++ deeds.map (.did 0) ++
          [.returned 0 (.call request) answer]) w := by
  obtain ⟨deeds, path⟩ := forward_path h
  have waits : Line.Run config.maxReconnectAttempts client [] _ := .nil
  have called := waits.snoc (.call (i := 0) (.call request) rfl)
  have entered := called.snoc (.enter (i := 0) rfl rfl rfl)
  have worked := Line.run_works entered Guarded.put_task path
  exact ⟨deeds, _, rfl, worked.snoc (.leave (i := 0) rfl)⟩

end

end Scenario

end PaymentChannel
