import PaymentChannel.Proofs.Account.Nonce
import PaymentChannel.Proofs.Account.Prepared
import PaymentChannel.Proofs.Client.Ledger

/-!
# Transactions behind a client that redials

The transactions of an account call the node through one client, and the answer of the node to a
transaction that it has accepted may be lost.

* `Relay` : a wallet, the line before its client, and the node.
* `Relay.Step`, `Relay.Run` : what can happen next, and what has happened.  A transaction that waits
  for an answer has a caller in the line.
* `Relay.wallet_run`, `Relay.line_run` : the wallet and the line each make a run of their own.
* `Relay.Inv` : every transaction that the node has accepted was taken by the wallet, is on its way
  to it, or was never heard of.  `Relay.inv_of_run` : every run keeps it.
* `Relay.nonce_of_run` : **how far the nonce is behind** once everything is over.
-/

namespace PaymentChannel

variable {κ : Type}

/-! ## The run -/

/-- The transactions of an account, the callers of its client, and the node. -/
structure Relay (κ : Type) where
  wallet : Wallet
  line : Line κ
  ledger : Ledger
  /-- The caller that a transaction waits for. -/
  caller : Nat → Option Nat

inductive RelayEntry (κ : Type) where
  /-- A transaction begins, or does something with the nonce. -/
  | own (moment : Moment TaskEvent)
  | asked (task caller : Nat) (nodeCall : NodeCall)
  | answered (task caller : Nat) (nodeCall : NodeCall) (answer : NodeAnswer nodeCall.Answer)
  /-- Something happens in the line. -/
  | inLine (entry : LineEntry κ)

namespace RelayEntry

def moment? : RelayEntry κ → Option (Moment TaskEvent)
  | own moment => some moment
  | answered i _ nodeCall answer => some (.moved i (.heard nodeCall answer))
  | asked .. | inLine _ => none

def inLine? : RelayEntry κ → Option (LineEntry κ)
  | own _ => none
  | asked _ k nodeCall => some (.called k (.call (.call nodeCall)))
  | answered _ k nodeCall answer => some (.returned k (.call (.call nodeCall)) answer)
  | inLine entry => some entry

end RelayEntry

/-- A transaction begins, or does something with the nonce. -/
def Moment.IsOwn : Moment TaskEvent → Prop
  | event (.began _) | moved _ (.reserved _) | moved _ .committed | moved _ .released => True
  | _ => False

theorem Moment.IsOwn.unsent {moment : Moment TaskEvent} (h : moment.IsOwn) :
    moment.accepted = false := by
  cases moment with
  | event => rfl
  | moved i move =>
    cases move with
    | heard => cases h
    | reserved | committed | released => rfl

/-- The call of the node that a transaction waits for. -/
def AccountDialogue.wants? {α : Type} (d : AccountDialogue α) : Option NodeCall :=
  d.asking?.bind Action.nodeCall?

theorem AccountDialogue.Goes.wants {α : Type} {d d' : AccountDialogue α} {nodeCall : NodeCall}
    {answer : NodeAnswer nodeCall.Answer} (h : Goes d (.heard nodeCall answer) d') :
    d.wants? = some nodeCall := by
  cases h <;> rfl

/-- A transaction that waits for an answer does nothing of its own. -/
theorem Wallet.Step.waits {key : PrivateKey} {w w' : Wallet} {moment : Moment TaskEvent}
    {j : Nat} {d : Sending} {nodeCall : NodeCall} (step : w.Step key moment (.ok w'))
    (own : moment.IsOwn) (hj : w.task j = .running d) (wants : d.wants? = some nodeCall) :
    w'.task j = .running d := by
  cases step with
  | @begin i _ _ _ _ absent =>
    have ne : j ≠ i := by
      rintro rfl
      cases absent.symm.trans hj
    exact (Function.update_of_ne ne ..).trans hj
  | @reserve i _ _ running _ goes | @commit i _ _ _ running goes _ | @release i _ _ running goes =>
    have ne : j ≠ i := by
      rintro rfl
      cases running.symm.trans hj
      cases goes
      cases wants
    exact (Function.update_of_ne ne ..).trans hj
  | hear | drop => cases own

open AccountDialogue Moment

namespace Relay

variable {key : PrivateKey} {limit : Option Nat} {next : Amount} {client : RedialingClient κ}
  {w w' : Relay κ} {log : List (RelayEntry κ)} {entry : RelayEntry κ} {i k : Nat}

/-- Something happens in the line that no transaction waits for.  Others may use the client as well,
but not to hand over transactions. -/
def Aside (w : Relay κ) : LineEntry κ → Prop
  | .entered .. | .signalled _ => True
  | .called _ errand => errand.raw? = none
  | .returned k _ _ | .dropped k => ∀ i, w.caller i ≠ some k
  | .did .. => False

def fresh (next : Amount) (client : RedialingClient κ) : Relay κ :=
  ⟨.fresh next, .fresh client, {}, fun _ => none⟩

/-- What can happen next.  No transaction is dropped. -/
inductive Step (key : PrivateKey) (limit : Option Nat) (w : Relay κ) :
    RelayEntry κ → Relay κ → Prop
  | own {moment : Moment TaskEvent} {wallet : Wallet} (h : moment.IsOwn)
      (step : w.wallet.Step key moment (.ok wallet)) :
      Step key limit w (.own moment) { w with wallet }
  | ask {i k : Nat} {d : Sending} {nodeCall : NodeCall} {line : Line κ}
      (hi : w.wallet.task i = .running d) (wants : d.wants? = some nodeCall)
      (idle : w.caller i = none)
      (step : w.line.Step limit (.called k (.call (.call nodeCall))) line) :
      Step key limit w (.asked i k nodeCall)
        { w with line, caller := Function.update w.caller i (some k) }
  | answer {i k : Nat} {nodeCall : NodeCall} {answer : NodeAnswer nodeCall.Answer}
      {wallet : Wallet} {line : Line κ} (hi : w.caller i = some k)
      (step : w.line.Step limit (.returned k (.call (.call nodeCall)) answer) line)
      (hear : w.wallet.Step key (.moved i (.heard nodeCall answer)) (.ok wallet)) :
      Step key limit w (.answered i k nodeCall answer)
        { w with wallet, line, caller := Function.update w.caller i none }
  | work {k : Nat} {deed : Deed κ} {line : Line κ} {ledger : Ledger}
      (step : w.line.Step limit (.did k deed) line) (serves : w.ledger.Serves deed ledger) :
      Step key limit w (.inLine (.did k deed)) { w with line, ledger }
  | aside {entry : LineEntry κ} {line : Line κ} (h : w.Aside entry)
      (step : w.line.Step limit entry line) : Step key limit w (.inLine entry) { w with line }

abbrev Run (key : PrivateKey) (limit : Option Nat) (next : Amount) (client : RedialingClient κ) :
    List (RelayEntry κ) → Relay κ → Prop :=
  Logged (Step key limit) (fresh next client)

/-- What has happened in the wallet. -/
def moments (log : List (RelayEntry κ)) : List (Moment TaskEvent) := log.filterMap (·.moment?)

/-- What has happened in the line. -/
def entries (log : List (RelayEntry κ)) : List (LineEntry κ) := log.filterMap (·.inLine?)

theorem moments_snoc : moments (log ++ [entry]) = moments log ++ entry.moment?.toList :=
  filterMap_snoc _

theorem entries_snoc : entries (log ++ [entry]) = entries log ++ entry.inLine?.toList :=
  filterMap_snoc _

theorem wallet_run (h : Run key limit next client log w) :
    Wallet.Run key (.fresh next) (moments log) (.ok w.wallet) := by
  induction h with
  | nil => exact .nil
  | snoc _ step ih =>
    rw [moments_snoc]
    cases step with
    | own _ step => exact ih.snoc step
    | answer _ _ hear => exact ih.snoc hear
    | ask | work | aside => rwa [RelayEntry.moment?, Option.toList_none, List.append_nil]

theorem line_run (h : Run key limit next client log w) :
    Line.Run limit client (entries log) w.line := by
  induction h with
  | nil => exact .nil
  | snoc _ step ih =>
    rw [entries_snoc]
    cases step with
    | own => rwa [RelayEntry.inLine?, Option.toList_none, List.append_nil]
    | ask _ _ _ step | answer _ step | work step | aside _ step => exact ih.snoc step

/-! ## The invariant -/

/-- Where the transactions are that the node has accepted. -/
structure Inv (log : List (RelayEntry κ)) (w : Relay κ) : Prop where
  /-- Who has a caller waits for it. -/
  asked : ∀ i k, w.caller i = some k →
    ∃ d nodeCall, w.wallet.task i = .running d ∧ d.wants? = some nodeCall
  /-- Nobody else hands over transactions. -/
  owned : ∀ k raw, (w.line.task k).raw? = some raw → ∃ i, w.caller i = some k
  /-- The wallet knows of a transaction, is about to be told of it, or never hears of it. -/
  count : sends (moments log) + w.line.owed + w.ledger.unheard.length = w.ledger.accepted.length
  sound : w.ledger.Sound

/-- Who hands over a transaction after a step did so before, or has just called for it. -/
theorem Inv.owner {entry : LineEntry κ} {line : Line κ} {raw : Bytes} (h : Inv log w)
    (step : w.line.Step limit entry line) (hk : (line.task k).raw? = some raw) :
    (∃ j, w.caller j = some k) ∨ ∃ errand, entry = .called k errand ∧ errand.raw? = some raw :=
  (step.raw?_inv hk).imp_left (h.owned k raw)

/-- What happens aside leaves what is owed as it is. -/
theorem Inv.owed_of_aside {entry : LineEntry κ} {line : Line κ} (h : Inv log w)
    (inv : Line.Inv limit (entries log) w.line) (aside : w.Aside entry)
    (step : w.line.Step limit entry line) : line.owed = w.line.owed := by
  cases entry with
  | called => exact inv.owed_of_called step
  | entered => exact step.owed_of_entered
  | did => cases aside
  | returned k errand result =>
    obtain ⟨before, after⟩ := inv.owed_of_returned step
    rw [before, after]
    refine (CallerState.owed_eq_zero (Option.eq_none_iff_forall_ne_some.mpr fun raw he => ?_)).symm
    cases step with
    | leave hk =>
      obtain ⟨i, hi⟩ := h.owned k raw (hk ▸ he)
      exact aside i hi
  | dropped => exact inv.owed_of_dropped step
  | signalled => exact step.owed_of_other (by cases step; rfl) fun _ _ => nofun

theorem Inv.own {moment : Moment TaskEvent} {wallet : Wallet} (h : Inv log w) (own : moment.IsOwn)
    (step : w.wallet.Step key moment (.ok wallet)) :
    Inv (log ++ [.own moment]) { w with wallet } := by
  refine ⟨?_, h.owned, ?_, h.sound⟩
  · intro i k hi
    obtain ⟨d, nodeCall, running, wants⟩ := h.asked i k hi
    exact ⟨d, nodeCall, step.waits own running wants, wants⟩
  · rw [moments_snoc, RelayEntry.moment?, Option.toList_some, sends_snoc, own.unsent]
    exact h.count

theorem Inv.ask {d : Sending} {nodeCall : NodeCall} {line : Line κ} (h : Inv log w)
    (inv : Line.Inv limit (entries log) w.line) (hi : w.wallet.task i = .running d)
    (wants : d.wants? = some nodeCall) (idle : w.caller i = none)
    (step : w.line.Step limit (.called k (.call (.call nodeCall))) line) :
    Inv (log ++ [.asked i k nodeCall])
      { w with line, caller := Function.update w.caller i (some k) } := by
  refine ⟨?_, ?_, ?_, h.sound⟩
  · intro j k' hj
    by_cases ne : j = i
    · subst ne
      exact ⟨d, nodeCall, hi, wants⟩
    · exact h.asked j k' ((Function.update_of_ne ne ..).symm.trans hj)
  · intro k' raw hk
    rcases h.owner step hk with ⟨j, hj⟩ | ⟨errand, same, -⟩
    · have ne : j ≠ i := by
        rintro rfl
        cases idle.symm.trans hj
      exact ⟨j, (Function.update_of_ne ne ..).trans hj⟩
    · cases same
      exact ⟨i, Function.update_self ..⟩
  · rw [moments_snoc, RelayEntry.moment?, Option.toList_none, List.append_nil]
    rw [inv.owed_of_called step]
    exact h.count

theorem Inv.answer {nodeCall : NodeCall} {answer : NodeAnswer nodeCall.Answer} {wallet : Wallet}
    {line : Line κ} (h : Inv log w) (inv : Line.Inv limit (entries log) w.line)
    (hi : w.caller i = some k)
    (step : w.line.Step limit (.returned k (.call (.call nodeCall)) answer) line)
    (hear : w.wallet.Step key (.moved i (.heard nodeCall answer)) (.ok wallet)) :
    Inv (log ++ [.answered i k nodeCall answer])
      { w with wallet, line, caller := Function.update w.caller i none } := by
  refine ⟨?_, ?_, ?_, h.sound⟩
  · intro j k' hj
    have ne : j ≠ i := by
      rintro rfl
      cases (Function.update_self ..).symm.trans hj
    obtain ⟨d, wanted, running, wants⟩ :=
      h.asked j k' ((Function.update_of_ne ne ..).symm.trans hj)
    cases hear with
    | hear => exact ⟨d, wanted, (Function.update_of_ne ne ..).trans running, wants⟩
  · intro k' raw hk
    rcases h.owner step hk with ⟨j, hj⟩ | ⟨_, ⟨⟩, -⟩
    -- The caller that the transaction had has just left.
    have ne : j ≠ i := by
      rintro rfl
      obtain rfl := Option.some.inj (hi.symm.trans hj)
      cases step.raw?_of_returned.symm.trans hk
    exact ⟨j, (Function.update_of_ne ne ..).trans hj⟩
  · obtain ⟨before, after⟩ := inv.owed_of_returned step
    have count := h.count
    rw [before, CallerState.owed_ending] at count
    rw [moments_snoc, RelayEntry.moment?, Option.toList_some, sends_snoc, after]
    exact count

theorem Inv.work {deed : Deed κ} {line : Line κ} {ledger : Ledger} (h : Inv log w)
    (inv : Line.Inv limit (entries log) w.line) (step : w.line.Step limit (.did k deed) line)
    (serves : w.ledger.Serves deed ledger) :
    Inv (log ++ [.inLine (.did k deed)]) { w with line, ledger } := by
  refine ⟨h.asked, ?_, ?_, serves.sound h.sound⟩
  · intro k' raw hk
    exact (h.owner step hk).resolve_right fun ⟨_, same, _⟩ => nomatch same
  · have count := h.count
    have settled := inv.owed_of_did step serves
    rw [moments_snoc, RelayEntry.moment?, Option.toList_none, List.append_nil]
    show _ + line.owed + ledger.unheard.length = ledger.accepted.length
    omega

theorem Inv.aside {entry : LineEntry κ} {line : Line κ} (h : Inv log w)
    (inv : Line.Inv limit (entries log) w.line) (aside : w.Aside entry)
    (step : w.line.Step limit entry line) : Inv (log ++ [.inLine entry]) { w with line } := by
  refine ⟨h.asked, ?_, ?_, h.sound⟩
  · intro k' raw hk
    refine (h.owner step hk).resolve_right ?_
    rintro ⟨errand, rfl, handed⟩
    have other : errand.raw? = none := aside
    cases other.symm.trans handed
  · rw [moments_snoc, RelayEntry.moment?, Option.toList_none, List.append_nil]
    rw [h.owed_of_aside inv aside step]
    exact h.count

/-- **Every step keeps the invariant.** -/
theorem Inv.step (h : Inv log w) (inv : Line.Inv limit (entries log) w.line)
    (step : Step key limit w entry w') : Inv (log ++ [entry]) w' := by
  cases step with
  | own own step => exact h.own own step
  | ask hi wants idle step => exact h.ask inv hi wants idle step
  | answer hi step hear => exact h.answer inv hi step hear
  | work step serves => exact h.work inv step serves
  | aside aside step => exact h.aside inv aside step

theorem inv_fresh (next : Amount) (client : RedialingClient κ) : Inv [] (fresh next client) where
  asked _ _ := (nomatch ·)
  owned _ _ := (nomatch ·)
  count := rfl
  sound := ⟨.nil, .refl _⟩

theorem inv_of_run (hc : client.Coherent) (h : Run key limit next client log w) : Inv log w := by
  induction h with
  | nil => exact inv_fresh next client
  | snoc run step ih => exact ih.step (Line.inv_of_run hc (line_run run)) step

/-- Every transaction that was begun is over. -/
def Finished (w : Relay κ) : Prop :=
  ∀ i, w.wallet.task i = .absent ∨ ∃ result, w.wallet.task i = .running (.done result)

theorem Finished.eq_done {d : Sending} (finished : w.Finished) (hi : w.wallet.task i = .running d) :
    ∃ result, d = .done result := by
  rcases finished i with absent | ⟨result, done⟩
  · cases absent.symm.trans hi
  · cases done.symm.trans hi
    exact ⟨result, rfl⟩

theorem Inv.owed_of_finished (h : Inv log w) (finished : w.Finished) : w.line.owed = 0 := by
  cases hh : w.line.holder with
  | none => exact Line.owed_of_free hh
  | some k =>
    rw [Line.owed_of_holder hh rfl]
    cases raw : (w.line.task k).raw? with
    | none => exact CallerState.owed_eq_zero raw
    | some raw =>
      obtain ⟨i, hi⟩ := h.owned k _ raw
      obtain ⟨d, nodeCall, running, wants⟩ := h.asked i k hi
      obtain ⟨result, rfl⟩ := finished.eq_done running
      cases wants

/-- **How far the nonce is behind** once everything is over: by the number of the transactions that
the node accepted and could not tell of. -/
theorem nonce_of_run (hc : client.Coherent) (run : Run key limit next client log w)
    (finished : w.Finished) :
    w.wallet.holder = none ∧ w.ledger.accepted.Nodup ∧
      w.ledger.unheard.Sublist w.ledger.accepted ∧
      w.wallet.value.toNat + w.ledger.unheard.length =
        next.toNat + w.ledger.accepted.length ∧
      (w.wallet.value.toNat = next.toNat + w.ledger.accepted.length ↔ w.ledger.unheard = []) := by
  have inv := inv_of_run hc run
  have free : w.wallet.holder = none := by
    refine Option.eq_none_iff_forall_ne_some.mpr fun i hi => ?_
    obtain ⟨d, running, undone⟩ :=
      (Wallet.consecutive_of_run (wallet_run run)).held w.wallet i rfl hi
    obtain ⟨result, he⟩ := finished.eq_done running
    exact undone result he
  have value := (Wallet.inv_of_run (wallet_run run)).free free
  have count := inv.count
  rw [inv.owed_of_finished finished] at count
  refine ⟨free, inv.sound.distinct, inv.sound.lost, by omega, ?_⟩
  rw [← List.length_eq_zero_iff]
  omega

/-! ## A lost answer -/

/-- A caller that has the client does something, and the node does its part. -/
abbrev Served (limit : Option Nat) (errand : Errand)
    (s : (RedialingClient κ × Progress κ errand) × Ledger) (deed : Deed κ)
    (s' : (RedialingClient κ × Progress κ errand) × Ledger) : Prop :=
  errand.Step limit s.1 deed s'.1 ∧ s.2.Serves deed s'.2

theorem run_works {k : Nat} {errand : Errand} {progress : Progress κ errand}
    {deeds : List (Deed κ)} {s : (RedialingClient κ × Progress κ errand) × Ledger}
    (run : Run key limit next client log w) (hk : w.line.task k = .working errand progress)
    (path : Logged (Served limit errand) ((w.line.value.client, progress), w.ledger) deeds s) :
    Run key limit next client (log ++ deeds.map fun deed => .inLine (.did k deed))
      { w with
        line := { w.line.put k (.working errand s.1.2) with
          value := ⟨s.1.1, w.line.value.queue⟩ }
        ledger := s.2 } := by
  induction path with
  | nil =>
    rw [List.map_nil, List.append_nil, Guarded.put_self hk]
    exact run
  | snoc _ step ih =>
    have next := ih.snoc (.work (.work Guarded.put_task step.1) step.2)
    rw [List.map_append, ← List.append_assoc]
    simpa [Guarded.put] using next

/-- What happens when a transaction makes a call with nobody else in line. -/
def calling (i k : Nat) (nodeCall : NodeCall) (answer : NodeAnswer nodeCall.Answer)
    (deeds : List (Deed κ)) : List (RelayEntry κ) :=
  [.asked i k nodeCall, .inLine (.entered k (.call (.call nodeCall)))] ++
    (deeds.map fun deed => .inLine (.did k deed)) ++ [.answered i k nodeCall answer]

theorem run_calling {i k : Nat} {d d' : Sending} {nodeCall : NodeCall}
    {answer : NodeAnswer nodeCall.Answer} {deeds : List (Deed κ)} {client' : RedialingClient κ}
    {ledger' : Ledger} (run : Run key limit next client log w)
    (hi : w.wallet.task i = .running d) (goes : d.Goes (.heard nodeCall answer) d')
    (idle : w.caller i = none) (hk : w.line.task k = .absent) (free : w.line.holder = none)
    (alone : w.line.value.queue = [])
    (path : Logged (Served limit (.call (.call nodeCall)))
      ((w.line.value.client.begin.1, .stage w.line.value.client.begin.2), w.ledger) deeds
      ((client', .ending answer), ledger')) :
    Run key limit next client (log ++ calling i k nodeCall answer deeds)
      ⟨w.wallet.put i (.running d'), ⟨⟨client', []⟩, none, Function.update w.line.task k .gone⟩,
        ledger', w.caller⟩ := by
  have asked := run.snoc (.ask hi goes.wants idle (.call _ hk))
  have entered := asked.snoc (.aside (show Aside _ (.entered k _) from trivial)
    (.enter Guarded.put_task free (congrArg (· ++ [k]) alone)))
  have worked := run_works entered Guarded.put_task path
  have answered := worked.snoc (.answer (Function.update_self ..) (.leave Guarded.put_task)
    (.hear hi goes))
  have kept : Function.update w.caller i none = w.caller :=
    Function.update_eq_self_iff.mpr idle.symm
  simpa [calling, Guarded.put, Guarded.freed, kept] using answered

end Relay

/-- A transaction that the account can pay for and the node refuses gives its nonce back. -/
theorem transact_refused (key : PrivateKey) (contract : Address) (data : Bytes)
    {gas gasPrice balance : Amount} (enough : gas.saturatingMul gasPrice ≤ balance)
    (chain : ChainId) (nonce : Amount) (signed : SignedTransaction) (e : NodeError) :
    ∃ d₁ d₂ d₃ d₄ d₅,
      Goes (transact key contract data gas gasPrice).run
        (.heard (.balanceAt key.address none) (.ok balance)) d₁ ∧
      d₁.Goes (.heard .chainId (.ok chain)) d₂ ∧ d₂.Goes (.reserved nonce) d₃ ∧
      d₃.Goes (.heard (.signTransaction ⟨some nonce, some contract, gas, some gasPrice, 0, data,
        some chain.toQuantity⟩ key) (.ok signed)) d₄ ∧
      d₄.Goes (.heard (.sendRawTransaction signed.raw) (.error e)) d₅ ∧
      d₅.Goes .released (.done (.error (.chain e))) := by
  have funded : Goes (checkFunds key.address gas gasPrice).run _ _ :=
    Path.single_inv (checkFunds_returns_iff.mpr ⟨balance, rfl, enough⟩)
  exact ⟨_, _, _, _, _, funded.bind _, .heard .chainId (.ok chain) _, .reserved nonce _,
    .heard (.signTransaction _ key) (.ok signed) _, .heard (.sendRawTransaction _) (.error e) _,
    .released _⟩

namespace Relay.Sample

open PaymentChannel.Sample Wallet.Sample

def client : RedialingClient Unit := .ofConnection ()

def lost : NodeError := .unavailable "connection lost"

def known : NodeError := .rpc "already known"

/-- A call over the connection that is answered at once. -/
def once (nodeCall : NodeCall) (answer : NodeAnswer nodeCall.Answer) : List (Deed Unit) :=
  [.asked (.call nodeCall) (), .heard (.call nodeCall) answer]

/-- The only answer of the node that reaches the transaction is that it is known. -/
def log : List (RelayEntry Unit) :=
  [.own (.event (.began 0))] ++
  calling 0 0 (.balanceAt key.address none) (.ok (0 : Amount))
    (once (.balanceAt key.address none) (.ok (0 : Amount))) ++
  calling 0 1 .chainId (.ok ChainId.mainnet) (once .chainId (.ok ChainId.mainnet)) ++
  [.own (.moved 0 (.reserved 7))] ++
  calling 0 2 (.signTransaction request key) (.ok signed)
    (once (.signTransaction request key) (.ok signed)) ++
  calling 0 3 (.sendRawTransaction [1]) (.error known)
    (once (.sendRawTransaction [1]) (.error lost) ++ [.dialed (.ok ()), .notified 0] ++
      once (.sendRawTransaction [1]) (.error known)) ++
  [.own (.moved 0 .released)]

theorem asked (limit : Option Nat) (nodeCall : NodeCall) (ledger : Ledger) :
    Served limit (.call (.call nodeCall)) ((client, .stage (.invoking ())), ledger)
      (.asked (.call nodeCall) ()) ((client, .awaiting ()), ledger) :=
  ⟨.ask, .idle rfl⟩

theorem path_once {limit : Option Nat} {nodeCall : NodeCall} {answer : NodeAnswer nodeCall.Answer}
    {ledger ledger' : Ledger} (counts : ¬Unavailable answer)
    (serves : ledger.Serves (.heard (.call nodeCall) answer : Deed Unit) ledger') :
    Logged (Served limit (.call (.call nodeCall))) ((client, .stage (.invoking ())), ledger)
      (once nodeCall answer) ((client, .ending answer), ledger') :=
  (Logged.single (asked limit nodeCall ledger)).snoc
    ⟨.answer (RedialingClient.answered_eq_some_iff.mpr ⟨counts, rfl, rfl⟩), serves⟩

theorem path_lost (limit : Option Nat) (raw : Bytes) :
    Logged (Served limit (.call (.call (.sendRawTransaction raw))))
      ((client, .stage (.invoking ())), {})
      (once (.sendRawTransaction raw) (.error lost) ++ [.dialed (.ok ()), .notified 0] ++
        once (.sendRawTransaction raw) (.error known))
      ((client, .ending (.error known)), ⟨[raw], [raw]⟩) := by
  have retried : Served limit (.call (.call (.sendRawTransaction raw)))
      ((client, .awaiting ()), {}) (.heard _ (.error lost))
      ((client.disconnect.begin.1, .stage client.disconnect.begin.2), ⟨[raw], [raw]⟩) :=
    ⟨.retry rfl, .send (.lose "connection lost" List.not_mem_nil)⟩
  have dialed : Served limit (.call (.call (.sendRawTransaction raw)))
      ((client.disconnect.begin.1, .stage (.dialing 1)), ⟨[raw], [raw]⟩) (.dialed (.ok ()))
      ((client.disconnect.begin.1.connect (), .announcing ()), ⟨[raw], [raw]⟩) :=
    ⟨.establish, .idle rfl⟩
  have resumed : Served limit (.call (.call (.sendRawTransaction raw)))
      ((client.disconnect.begin.1.connect (), .announcing ()), ⟨[raw], [raw]⟩) (.notified 0)
      ((client, .stage (.invoking ())), ⟨[raw], [raw]⟩) := ⟨.resume, .idle rfl⟩
  have connected := (((Logged.single (asked limit _ {})).snoc retried).snoc dialed).snoc resumed
  exact connected.append (path_once (by rintro ⟨_, ⟨⟩⟩)
    (.send (.known "already known" (List.mem_singleton_self raw))))

theorem run_log : ∃ w, Run key none 7 client log w ∧ w.Finished ∧ w.wallet.value = 7 ∧
    w.ledger = ⟨[[1]], [[1]]⟩ := by
  have enough : Amount.saturatingMul 0 0 ≤ 0 := by decide
  obtain ⟨d₁, d₂, d₃, d₄, d₅, balance, chain, reserve, sign, send, release⟩ :=
    transact_refused key contract [] enough .mainnet 7 signed known
  have began : Run key none 7 client [.own (.event (.began 0))] _ :=
    Logged.single (.own trivial (.begin (i := 0) contract [] 0 0 rfl))
  have funded := run_calling (k := 0) began Guarded.put_task balance rfl rfl rfl rfl
    (path_once (by rintro ⟨_, ⟨⟩⟩) (.unsent rfl))
  have named := run_calling (k := 1) funded Guarded.put_task chain rfl rfl rfl rfl
    (path_once (by rintro ⟨_, ⟨⟩⟩) (.unsent rfl))
  have reserved := named.snoc (.own (show Moment.IsOwn (.moved 0 (.reserved 7)) from trivial)
    (.reserve Guarded.put_task rfl reserve))
  have signed := run_calling (k := 2) reserved Guarded.put_task sign rfl rfl rfl rfl
    (path_once (by rintro ⟨_, ⟨⟩⟩) (.unsent rfl))
  have refused := run_calling (k := 3) signed Guarded.put_task send rfl rfl rfl rfl (path_lost ..)
  have released := refused.snoc (.own (show Moment.IsOwn (.moved 0 .released) from trivial)
    (.release Guarded.put_task release))
  refine ⟨_, released, ?_, rfl, rfl⟩
  rintro (_ | i)
  · exact Or.inr ⟨_, rfl⟩
  · exact Or.inl rfl

theorem nonce_after_lost_answer : ∃ w, Run key none 7 client log w ∧ w.Finished ∧
    w.ledger.unheard = [[1]] ∧
    w.wallet.value.toNat + 1 = (7 : Amount).toNat + w.ledger.accepted.length := by
  obtain ⟨w, run, finished, -, ledger⟩ := run_log
  have coherent : client.Coherent := (RedialingClient.Opened.ofConnection ()).truthful.coherent
  obtain ⟨-, -, -, count, -⟩ := nonce_of_run coherent run finished
  have unheard : w.ledger.unheard = [[1]] := congrArg Ledger.unheard ledger
  rw [unheard] at count
  exact ⟨w, run, finished, unheard, count⟩

/-- The node has accepted a transaction with the nonce 7, and the next one is to have it as well. -/
theorem nonce_used_twice : ∃ w, Run key none 7 client log w ∧ w.Finished ∧
    w.ledger.accepted = [signed.raw] ∧
    w.wallet.value.toNat ≠ (7 : Amount).toNat + w.ledger.accepted.length := by
  obtain ⟨w, run, finished, value, ledger⟩ := run_log
  have accepted : w.ledger.accepted = [signed.raw] := congrArg Ledger.accepted ledger
  refine ⟨w, run, finished, accepted, ?_⟩
  rw [value, accepted]
  exact Nat.ne_of_lt (Nat.lt_succ_self 7)

end Relay.Sample

end PaymentChannel
