import Mathlib.Algebra.Ring.Nat
import PaymentChannel.Proofs.Account.Guarded
import PaymentChannel.Proofs.Account.Reservation

/-!
# Nonces of concurrent transactions

Any number of transactions of one account run at the same time.  Each takes its moves when it likes,
the node answers what it likes, and a transaction that waits may be dropped.

* `Wallet` : the nonce of the account, who holds it, and the transactions.
* `Wallet.Step`, `Wallet.Run` : what can happen next, and what has happened.  Using up the last
  nonce ends the program.
* `Wallet.Inv` : while the nonce is held it is the holder's, and otherwise it counts what the node
  has taken.  `Wallet.inv_of_run` : every run keeps it.
* `Wallet.Consecutive`, `Wallet.consecutive_of_run` : **nonces have no gap and no duplicate.**
-/

namespace PaymentChannel

theorem Amount.successor_eq_ok_iff {a b : Amount} :
    a.successor = .ok b ↔ b.toNat = a.toNat + 1 := by
  have top : largest.toNat = 2 ^ 256 - 1 := rfl
  have ha := a.isLt
  have hb := b.isLt
  unfold successor
  split
  · next h => subst h; simp only [reduceCtorEq, false_iff]; omega
  · next h =>
    have lt : a.toNat + 1 < 2 ^ 256 := by
      have := mt BitVec.eq_of_toNat_eq h
      omega
    have sum : (a + 1).toNat = a.toNat + 1 := Nat.mod_eq_of_lt lt
    rw [Except.ok.injEq, ← sum, BitVec.toNat_inj, eq_comm]

theorem Amount.successor_eq_error_iff {a : Amount} {e : ArithmeticError} :
    a.successor = .error e ↔ e = .overflow ∧ a.toNat + 1 = 2 ^ 256 := by
  have top : largest.toNat = 2 ^ 256 - 1 := rfl
  unfold successor
  split
  · next h => subst h; simp [top, eq_comm]
  · next h =>
    have := mt BitVec.eq_of_toNat_eq h
    simp only [reduceCtorEq, false_iff]
    omega

open AccountDialogue

/-- A transaction under way. -/
abbrev Sending : Type := AccountDialogue (Except TransactionError Hash)

inductive TaskState where
  | absent
  | running (dialogue : Sending)
  | dropped

/-- The nonce of an account, who holds it, and the transactions. -/
abbrev Wallet : Type := Guarded Amount TaskState

inductive TaskEvent where
  | began (task : Nat)
  | dropped (task : Nat)

/-! ## The log -/

namespace Moment

variable {Event : Type} {log past future : List (Moment Event)} {moment : Moment Event} {i : Nat}

/-- Whether the node took a transaction. -/
def accepted : Moment Event → Bool
  | moved _ move => move.accepted
  | event _ => false

/-- How many transactions the node has taken. -/
def sends (log : List (Moment Event)) : Nat := log.countP accepted

/-- Who reserves the nonce. -/
def reserves : Moment Event → Option Nat
  | moved i (.reserved _) => some i
  | _ => none

/-- Who reserved the nonce last. -/
def reserver (log : List (Moment Event)) : Option Nat := log.reverse.findSome? reserves

theorem accepted_inv (h : moment.accepted = true) :
    ∃ i raw hash, moment = .moved i (.heard (.sendRawTransaction raw) (.ok hash)) := by
  unfold accepted Move.accepted at h
  split at h
  · split at h
    · exact ⟨_, _, _, rfl⟩
    · cases h
  · cases h

theorem sends_snoc : sends (log ++ [moment]) = sends log + moment.accepted.toNat := by
  rw [sends, List.countP_append, List.countP_singleton]
  cases moment.accepted <;> rfl

theorem sends_append (past future : List (Moment Event)) :
    sends (past ++ future) = sends past + sends future := List.countP_append

theorem sends_taken (i : Nat) (raw : Bytes) (hash : Hash) (rest : List (Moment Event)) :
    sends (.moved i (.heard (.sendRawTransaction raw) (.ok hash)) :: rest) = sends rest + 1 :=
  List.countP_cons_of_pos rfl

theorem reserver_other (h : moment.reserves = none) :
    reserver (log ++ [moment]) = reserver log := by
  simp [reserver, h]

theorem reserver_reserved (n : Amount) : reserver (log ++ [.moved i (.reserved n)]) = some i := by
  rw [reserver, List.reverse_append]
  rfl

theorem reserver_after {n : Amount} (h : ∀ k m, .moved k (.reserved m) ∉ future) :
    reserver (past ++ .moved i (.reserved n) :: future) = some i := by
  have unreserved : future.reverse.findSome? reserves = none := by
    rw [List.findSome?_eq_none_iff]
    intro moment hm
    unfold reserves
    split
    · exact absurd (List.mem_reverse.mp hm) (h _ _)
    · rfl
  rw [reserver, List.reverse_append, List.reverse_cons, List.append_assoc, List.findSome?_append,
    unreserved]
  rfl

end Moment

open Moment Guarded

namespace Wallet

variable {key : PrivateKey} {w w' w₀ : Wallet} {i j : Nat} {m : Move} {moment : Moment TaskEvent}
  {log past future : List (Moment TaskEvent)} {n₀ : Nat} {moves : List Move} {d d' : Sending}

def fresh (next : Amount) : Wallet := ⟨next, none, fun _ => .absent⟩

inductive Step (key : PrivateKey) (w : Wallet) :
    Moment TaskEvent → Except ArithmeticError Wallet → Prop
  | begin {i : Nat} (contract : Address) (data : Bytes) (gas gasPrice : Amount)
      (h : w.task i = .absent) :
      Step key w (.event (.began i))
        (.ok (w.put i (.running (transact key contract data gas gasPrice).run)))
  | hear {i : Nat} {d d' : Sending} {nodeCall : NodeCall}
      {answer : NodeAnswer nodeCall.Answer} (h : w.task i = .running d)
      (goes : d.Goes (.heard nodeCall answer) d') :
      Step key w (.moved i (.heard nodeCall answer)) (.ok (w.put i (.running d')))
  | reserve {i : Nat} {d d' : Sending}
      (h : w.task i = .running d) (free : w.holder = none) (goes : d.Goes (.reserved w.value) d') :
      Step key w (.moved i (.reserved w.value))
        (.ok { w.put i (.running d') with holder := some i })
  | commit {i : Nat} {d d' : Sending} {next : Amount}
      (h : w.task i = .running d) (goes : d.Goes .committed d')
      (hn : w.value.successor = .ok next) :
      Step key w (.moved i .committed) (.ok { (w.put i (.running d')).freed i with value := next })
  | overflow {i : Nat} {d d' : Sending}
      {e : ArithmeticError} (h : w.task i = .running d) (goes : d.Goes .committed d')
      (hn : w.value.successor = .error e) : Step key w (.moved i .committed) (.error e)
  | release {i : Nat} {d d' : Sending}
      (h : w.task i = .running d) (goes : d.Goes .released d') :
      Step key w (.moved i .released) (.ok ((w.put i (.running d')).freed i))
  | drop {i : Nat} {d : Sending}
      (h : w.task i = .running d) (awaits : d.Awaits) :
      Step key w (.event (.dropped i)) (.ok ((w.put i .dropped).freed i))

/-- What has happened, and what it led to. -/
inductive Run (key : PrivateKey) (w₀ : Wallet) :
    List (Moment TaskEvent) → Except ArithmeticError Wallet → Prop
  | nil : Run key w₀ [] (.ok w₀)
  | snoc {log : List (Moment TaskEvent)} {w : Wallet} {moment : Moment TaskEvent}
      {outcome : Except ArithmeticError Wallet} (run : Run key w₀ log (.ok w))
      (step : Step key w moment outcome) : Run key w₀ (log ++ [moment]) outcome

/-! ## The invariant -/

structure Stands (log : List (Moment TaskEvent)) (i : Nat) (d : Sending)
    (phase : Phase) : Prop where
  obeys : d.Obeys (fun _ phase => phase.held = none) phase
  trace : Phase.Trace (movesOf i log) phase

/-- Either a task does not hold the nonce, or it holds the right one. -/
def Agrees (n₀ : Nat) (log : List (Moment TaskEvent)) (w : Wallet) (i : Nat) (phase : Phase) :
    Prop :=
  w.holder ≠ some i ∧ phase.held = none ∨
    w.holder = some i ∧ phase.held = some w.value ∧ w.value.toNat + phase.taken = n₀ + sends log

/-- What is known of a task. -/
structure Fits (n₀ : Nat) (log : List (Moment TaskEvent)) (w : Wallet) (i : Nat) : Prop where
  absent : w.task i = .absent → movesOf i log = []
  running : ∀ d, w.task i = .running d → ∃ phase, Stands log i d phase ∧ Agrees n₀ log w i phase
  holding : w.holder = some i → (∃ d, w.task i = .running d) ∧ reserver log = some i

theorem Fits.of_running {phase : Phase} (hi : w.task i = .running d) (stands : Stands log i d phase)
    (agrees : Agrees n₀ log w i phase) (last : w.holder = some i → reserver log = some i) :
    Fits n₀ log w i where
  absent ha := by
    rw [hi] at ha
    cases ha
  running d' hd := by
    rw [hi] at hd
    cases hd
    exact ⟨phase, stands, agrees⟩
  holding ho := ⟨⟨d, hi⟩, last ho⟩

structure Inv (n₀ : Nat) (log : List (Moment TaskEvent)) (w : Wallet) : Prop where
  fits : ∀ i, Fits n₀ log w i
  free : w.holder = none → w.value.toNat = n₀ + sends log

theorem Stands.moved {phase : Phase} (h : Stands log i d phase) (goes : d.Goes m d') :
    ∃ phase', phase.Goes m phase' ∧ Stands (log ++ [.moved i m]) i d' phase' := by
  obtain ⟨phase', goes', obeys⟩ := h.obeys.goes goes
  refine ⟨phase', goes', obeys, ?_⟩
  rw [movesOf_moved]
  exact .snoc h.trace goes'

theorem Fits.frame (h : Fits n₀ log w j) (ht : w'.task j = w.task j)
    (hm : moveOf j moment = none) (hh : w'.holder = some j ↔ w.holder = some j)
    (hn : w.holder = some j → w'.value = w.value ∧ sends (log ++ [moment]) = sends log ∧
      reserver (log ++ [moment]) = reserver log) :
    Fits n₀ (log ++ [moment]) w' j where
  absent ha := by
    rw [movesOf_other hm]
    exact h.absent (ht ▸ ha)
  running d hd := by
    obtain ⟨phase, stands, held⟩ := h.running d (ht ▸ hd)
    refine ⟨phase, ⟨stands.obeys, ?_⟩, ?_⟩
    · rw [movesOf_other hm]
      exact stands.trace
    · rcases held with ⟨ho, held⟩ | ⟨ho, mine⟩
      · exact Or.inl ⟨mt hh.mp ho, held⟩
      · obtain ⟨next, count, -⟩ := hn ho
        rw [← next, ← count] at mine
        exact Or.inr ⟨hh.mpr ho, mine⟩
  holding ho := by
    obtain ⟨-, -, last⟩ := hn (hh.mp ho)
    rw [ht, last]
    exact h.holding (hh.mp ho)

/-- What happens to one task leaves the others as they are. -/
theorem Inv.extend {state : TaskState} (h : Inv n₀ log w)
    (mine : Fits n₀ (log ++ [moment]) w' i)
    (free : w'.holder = none → w'.value.toNat = n₀ + sends (log ++ [moment]))
    (ht : w'.task = Function.update w.task i state) (hm : ∀ j, j ≠ i → moveOf j moment = none)
    (hh : ∀ j, j ≠ i → (w'.holder = some j ↔ w.holder = some j))
    (hn : ∀ j, j ≠ i → w.holder = some j → w'.value = w.value ∧
      sends (log ++ [moment]) = sends log ∧ reserver (log ++ [moment]) = reserver log) :
    Inv n₀ (log ++ [moment]) w' where
  fits j := by
    by_cases hj : j = i
    · exact hj ▸ mine
    · have same : w'.task j = w.task j := by rw [ht, Function.update_of_ne hj]
      exact (h.fits j).frame same (hm j hj) (hh j hj) (hn j hj)
  free := free

theorem Inv.begin (h : Inv n₀ log w) (hi : w.task i = .absent)
    (obeys : d.Obeys (fun _ phase => phase.held = none) .idle) :
    Inv n₀ (log ++ [.event (.began i)]) (w.put i (.running d)) := by
  have unheld : w.holder ≠ some i := by
    intro ho
    obtain ⟨⟨d, hd⟩, -⟩ := (h.fits i).holding ho
    rw [hi] at hd
    cases hd
  have count : sends (log ++ [.event (.began i)]) = sends log := sends_snoc
  have trace : Phase.Trace (movesOf i (log ++ [.event (.began i)])) .idle := by
    rw [movesOf_other rfl, (h.fits i).absent hi]
    exact .nil
  refine h.extend (.of_running put_task ⟨obeys, trace⟩ ?_ ?_) ?_ rfl ?_ ?_ ?_
  · exact Or.inl ⟨unheld, rfl⟩
  · exact fun ho => absurd ho unheld
  · rw [count]
    exact h.free
  · exact fun j _ => rfl
  · exact fun j _ => Iff.rfl
  · exact fun j _ _ => ⟨rfl, count, reserver_other rfl⟩

theorem Inv.hear {nodeCall : NodeCall} {answer : NodeAnswer nodeCall.Answer} (h : Inv n₀ log w)
    (hi : w.task i = .running d) (goes : d.Goes (.heard nodeCall answer) d') :
    Inv n₀ (log ++ [.moved i (.heard nodeCall answer)]) (w.put i (.running d')) := by
  obtain ⟨phase, stands, holds⟩ := (h.fits i).running d hi
  obtain ⟨phase', goes', stands'⟩ := stands.moved goes
  obtain ⟨held, taken⟩ := goes'.heard_inv
  have count : sends (log ++ [.moved i (.heard nodeCall answer)]) =
      sends log + (Move.heard nodeCall answer).accepted.toNat := sends_snoc
  -- Only the holder can send.
  have unsent : w.holder ≠ some i →
      sends (log ++ [.moved i (.heard nodeCall answer)]) = sends log := by
    intro ho
    have unheld := held.trans (holds.resolve_right fun mine => ho mine.1).2
    have := phase'.taken_of_unheld unheld
    omega
  refine h.extend (.of_running put_task stands' ?_ ?_) ?_ rfl ?_ ?_ ?_
  · rcases holds with ⟨ho, unheld⟩ | ⟨ho, mine, total⟩
    · exact Or.inl ⟨ho, held.trans unheld⟩
    · refine Or.inr ⟨ho, held.trans mine, ?_⟩
      rw [count, taken, ← Nat.add_assoc, ← Nat.add_assoc]
      exact congrArg (· + _) total
  · intro ho
    rw [reserver_other rfl]
    exact ((h.fits i).holding ho).2
  · intro ho
    rw [unsent (ne_of_eq_of_ne ho (by simp))]
    exact h.free ho
  · exact fun j => moveOf_moved_of_ne
  · exact fun j _ => Iff.rfl
  · intro j hj ho
    refine ⟨rfl, unsent ?_, reserver_other rfl⟩
    rw [ho]
    exact fun he => hj (Option.some.inj he)

theorem Inv.reserve (h : Inv n₀ log w) (hi : w.task i = .running d) (free : w.holder = none)
    (goes : d.Goes (.reserved w.value) d') :
    Inv n₀ (log ++ [.moved i (.reserved w.value)])
      { w.put i (.running d') with holder := some i } := by
  obtain ⟨phase, stands, -⟩ := (h.fits i).running d hi
  obtain ⟨phase', goes', stands'⟩ := stands.moved goes
  have count : sends (log ++ [.moved i (.reserved w.value)]) = sends log := sends_snoc
  cases goes'
  refine h.extend (.of_running put_task stands' ?_ ?_) ?_ rfl ?_ ?_ ?_
  · right
    rw [count]
    exact ⟨rfl, rfl, h.free free⟩
  · exact fun _ => reserver_reserved _
  · exact (nomatch ·)
  · exact fun j => moveOf_moved_of_ne
  · intro j hj
    rw [free]
    exact ⟨fun he => absurd (Option.some.inj he).symm hj, (nomatch ·)⟩
  · intro j _ ho
    rw [free] at ho
    cases ho

/-- A task that ends its hold on the nonce, if it has one, leaves the right number. -/
theorem Inv.letGo {state : TaskState} {next : Amount} (h : Inv n₀ log w)
    (mine : Fits n₀ (log ++ [moment]) { (w.put i state).freed i with value := next } i)
    (hm : ∀ j, j ≠ i → moveOf j moment = none) (unsent : moment.accepted = false)
    (unreserved : moment.reserves = none)
    (own : w.holder = some i → next.toNat = n₀ + sends log)
    (foreign : w.holder ≠ some i → next = w.value) :
    Inv n₀ (log ++ [moment]) { (w.put i state).freed i with value := next } := by
  have count : sends (log ++ [moment]) = sends log := by
    rw [sends_snoc, unsent]
    rfl
  refine h.extend mine ?_ rfl hm ?_ ?_
  · intro ho
    rw [count]
    by_cases hi : w.holder = some i
    · exact own hi
    · rw [foreign hi]
      exact h.free ((freed_holder hi).symm.trans ho)
  · exact fun j hj => freed_holder_iff hj
  · intro j hj ho
    refine ⟨foreign ?_, count, reserver_other unreserved⟩
    rw [ho]
    exact fun he => hj (Option.some.inj he)

theorem Inv.commit {next : Amount} (h : Inv n₀ log w) (hi : w.task i = .running d)
    (goes : d.Goes .committed d') (hn : w.value.successor = .ok next) :
    Inv n₀ (log ++ [.moved i .committed])
      { (w.put i (.running d')).freed i with value := next } := by
  obtain ⟨phase, stands, holds⟩ := (h.fits i).running d hi
  obtain ⟨phase', goes', stands'⟩ := stands.moved goes
  cases goes' with
  | commit nonce hash =>
    obtain ⟨-, unheld⟩ | ⟨ho, -, count⟩ := holds
    · cases unheld
    refine h.letGo (.of_running put_task stands' ?_ ?_) ?_ rfl rfl ?_ ?_
    · exact Or.inl ⟨freed_holder_self, rfl⟩
    · exact fun hf => absurd hf freed_holder_self
    · exact fun j => moveOf_moved_of_ne
    · exact fun _ => (Amount.successor_eq_ok_iff.mp hn).trans count
    · exact fun hf => absurd ho hf

theorem Inv.release (h : Inv n₀ log w) (hi : w.task i = .running d) (goes : d.Goes .released d') :
    Inv n₀ (log ++ [.moved i .released]) ((w.put i (.running d')).freed i) := by
  obtain ⟨phase, stands, holds⟩ := (h.fits i).running d hi
  obtain ⟨phase', goes', stands'⟩ := stands.moved goes
  cases goes' with
  | release nonce =>
    obtain ⟨-, unheld⟩ | ⟨ho, -, count⟩ := holds
    · cases unheld
    refine h.letGo (.of_running put_task stands' ?_ ?_) ?_ rfl rfl ?_ ?_
    · exact Or.inl ⟨freed_holder_self, rfl⟩
    · exact fun hf => absurd hf freed_holder_self
    · exact fun j => moveOf_moved_of_ne
    · exact fun _ => count
    · exact fun _ => rfl

theorem Inv.drop (h : Inv n₀ log w) (hi : w.task i = .running d) (awaits : d.Awaits) :
    Inv n₀ (log ++ [.event (.dropped i)]) ((w.put i .dropped).freed i) := by
  obtain ⟨phase, stands, holds⟩ := (h.fits i).running d hi
  refine h.letGo ⟨?_, ?_, ?_⟩ ?_ rfl rfl ?_ ?_
  · exact fun ha => nomatch put_task.symm.trans ha
  · exact fun _ hd => nomatch put_task.symm.trans hd
  · exact fun hf => absurd hf freed_holder_self
  · exact fun j _ => rfl
  · intro ho
    have count := (holds.resolve_left fun foreign => foreign.1 ho).2.2
    rwa [stands.obeys.taken_of_awaits awaits] at count
  · exact fun _ => rfl

/-- **Every step keeps the invariant.** -/
theorem Inv.step (h : Inv n₀ log w) (step : Step key w moment (.ok w')) :
    Inv n₀ (log ++ [moment]) w' := by
  cases step with
  | begin contract data gas gasPrice hi =>
    exact h.begin hi (transact_obeys key contract data gas gasPrice)
  | hear hi goes => exact h.hear hi goes
  | reserve hi free goes => exact h.reserve hi free goes
  | commit hi goes hn => exact h.commit hi goes hn
  | release hi goes => exact h.release hi goes
  | drop hi awaits => exact h.drop hi awaits

theorem inv_fresh (next : Amount) : Inv next.toNat [] (fresh next) where
  fits _ := ⟨fun _ => rfl, fun _ => (nomatch ·), (nomatch ·)⟩
  free _ := rfl

theorem inv_of_run {next : Amount} (h : Run key (fresh next) log (.ok w)) :
    Inv next.toNat log w := by
  generalize ho : Except.ok w = outcome at h
  induction h generalizing w with
  | nil => exact Except.ok.inj ho ▸ inv_fresh next
  | snoc run step ih =>
    subst ho
    exact (ih rfl).step step

/-! ## What the runs have in common -/

def InFlight (w : Wallet) (i : Nat) : Prop := ∃ d, w.task i = .running d ∧ d.Submits

/-- The nonces of a run that starts with the nonce `n₀`. -/
structure Consecutive (n₀ : Amount) (log : List (Moment TaskEvent))
    (outcome : Except ArithmeticError Wallet) : Prop where
  /-- Only one transaction at a time is signed and sent. -/
  alone : ∀ w i j, outcome = .ok w → w.InFlight i → w.InFlight j → i = j
  /-- What is about to be signed has the number of transactions that were taken. -/
  signing : ∀ w i transaction key next, outcome = .ok w →
    w.task i = .running (.ask (.call (.signTransaction transaction key)) next) →
    ∃ n, transaction.nonce = some n ∧ n.toNat = n₀.toNat + sends log
  reserved : ∀ past i n future, log = past ++ .moved i (.reserved n) :: future →
    n.toNat = n₀.toNat + sends past
  /-- The transactions that the node takes are numbered one after the other. -/
  accepted : ∀ past i raw hash future,
    log = past ++ .moved i (.heard (.sendRawTransaction raw) (.ok hash)) :: future →
    ∃ n, Signed (movesOf i past) n raw ∧ n.toNat = n₀.toNat + sends past
  /-- The nonce of an attempt that the node did not take is the nonce of the next attempt. -/
  reused : ∀ past i n middle j n' future,
    log = past ++ .moved i (.reserved n) :: (middle ++ .moved j (.reserved n') :: future) →
    (∀ k m, .moved k (.reserved m) ∉ middle) →
    (∀ raw hash, .moved i (.heard (.sendRawTransaction raw) (.ok hash)) ∉ middle) → n' = n
  /-- Whatever its receipt says, the nonce of a transaction is not used again. -/
  consumed : ∀ past i hash answer middle j n' future,
    log = past ++ .moved i (.heard (.transactionReceipt hash) answer) ::
      (middle ++ .moved j (.reserved n') :: future) →
    ∃ n, Sent (movesOf i past) n hash ∧ n.toNat < n'.toNat
  /-- A transaction that holds the nonce is not over. -/
  held : ∀ w i, outcome = .ok w → w.holder = some i →
    ∃ d, w.task i = .running d ∧ ∀ result, d ≠ .done result
  free : ∀ w, outcome = .ok w → w.holder = none → w.value.toNat = n₀.toNat + sends log
  exhausted : ∀ e, outcome = .error e → n₀.toNat + sends log = 2 ^ 256

variable {outcome : Except ArithmeticError Wallet} {next : Amount}

theorem Run.split (h : Run key w₀ log outcome) (he : log = past ++ moment :: future) :
    ∃ w outcome', Run key w₀ past (.ok w) ∧ Step key w moment outcome' := by
  induction h generalizing future with
  | nil => simp at he
  | @snoc _ w _ outcome run step ih =>
    rcases List.eq_nil_or_concat future with rfl | ⟨rest, x, rfl⟩
    · obtain ⟨rfl, hl⟩ := List.append_inj' he rfl
      cases hl
      exact ⟨w, outcome, run, step⟩
    · rw [List.concat_eq_append, ← List.cons_append, ← List.append_assoc] at he
      exact ih (List.append_inj' he rfl).1

theorem Inv.inFlight (h : Inv n₀ log w) (hi : w.InFlight i) : w.holder = some i := by
  obtain ⟨d, hd, submits⟩ := hi
  obtain ⟨phase, stands, ⟨-, unheld⟩ | ⟨ho, -⟩⟩ := (h.fits i).running d hd
  · exact absurd unheld (stands.obeys.held_of_submits submits)
  · exact ho

theorem Step.moved_inv (h : Step key w (.moved i m) outcome) :
    ∃ d d', w.task i = .running d ∧ d.Goes m d' := by
  cases h with
  | hear hi goes | reserve hi _ goes | commit hi goes | overflow hi goes | release hi goes =>
    exact ⟨_, _, hi, goes⟩

/-- A transaction that moves is in a phase for it, and holds the nonce if the phase says so. -/
theorem Run.phase (h : Run key (fresh next) log outcome) (he : log = past ++ .moved i m :: future) :
    ∃ phase phase', phase.Goes m phase' ∧ Phase.Trace (movesOf i past) phase ∧
      (phase.held = none ∨ reserver past = some i ∧
        ∃ n, phase.held = some n ∧ n.toNat + phase.taken = next.toNat + sends past) := by
  obtain ⟨w, _, run, step⟩ := h.split he
  have inv := inv_of_run run
  obtain ⟨d, d', hi, goes⟩ := step.moved_inv
  obtain ⟨phase, stands, holds⟩ := (inv.fits i).running d hi
  obtain ⟨phase', goes', -⟩ := stands.moved goes
  refine ⟨phase, phase', goes', stands.trace, holds.imp And.right ?_⟩
  rintro ⟨ho, held, count⟩
  exact ⟨((inv.fits i).holding ho).2, w.value, held, count⟩

theorem Run.reserved {n : Amount} (h : Run key (fresh next) log outcome)
    (he : log = past ++ .moved i (.reserved n) :: future) :
    n.toNat = next.toNat + sends past := by
  obtain ⟨w, _, run, step⟩ := h.split he
  cases step with
  | reserve hi free goes => exact (inv_of_run run).free free

theorem Run.accepted {raw : Bytes} {hash : Hash} (h : Run key (fresh next) log outcome)
    (he : log = past ++ .moved i (.heard (.sendRawTransaction raw) (.ok hash)) :: future) :
    reserver past = some i ∧
      ∃ n, Signed (movesOf i past) n raw ∧ n.toNat = next.toNat + sends past := by
  obtain ⟨phase, phase', goes, trace, holds⟩ := h.phase he
  cases goes with
  | read _ _ hc => cases hc
  | accept n =>
    obtain unheld | ⟨last, n, held, count⟩ := holds
    · cases unheld
    cases held
    exact ⟨last, n, trace.signed_inv, count⟩

theorem Run.reused {n n' : Amount} {middle : List (Moment TaskEvent)}
    (h : Run key (fresh next) log outcome)
    (he : log = past ++ .moved i (.reserved n) :: (middle ++ .moved j (.reserved n') :: future))
    (hr : ∀ k m, .moved k (.reserved m) ∉ middle)
    (hs : ∀ raw hash, .moved i (.heard (.sendRawTransaction raw) (.ok hash)) ∉ middle) :
    n' = n := by
  have he' : log = (past ++ .moved i (.reserved n) :: middle) ++
      .moved j (.reserved n') :: future := he.trans (by simp)
  -- Whoever sends has reserved the nonce last, which no one but the first has done.
  have unsent : sends (.moved i (.reserved n) :: middle) = 0 := by
    refine List.countP_eq_zero.mpr fun moment hm taken => ?_
    obtain ⟨k, raw, hash, rfl⟩ := accepted_inv taken
    rcases List.mem_cons.mp hm with hm | hm
    · cases hm
    obtain ⟨before, after, rfl⟩ := List.append_of_mem hm
    have sent : log = (past ++ .moved i (.reserved n) :: before) ++
        .moved k (.heard (.sendRawTransaction raw) (.ok hash)) ::
          (after ++ .moved j (.reserved n') :: future) := he.trans (by simp)
    have last := (h.accepted sent).1
    rw [reserver_after fun k m hb => hr k m (List.mem_append_left _ hb)] at last
    obtain rfl := Option.some.inj last
    exact hs raw hash (List.mem_append_right _ List.mem_cons_self)
  have second := h.reserved he'
  rw [sends_append, unsent] at second
  exact BitVec.eq_of_toNat_eq (second.trans (h.reserved he).symm)

theorem Run.consumed {hash : Hash} {answer : NodeAnswer (Option Receipt)} {n' : Amount}
    {middle : List (Moment TaskEvent)} (h : Run key (fresh next) log outcome)
    (he : log = past ++ .moved i (.heard (.transactionReceipt hash) answer) ::
      (middle ++ .moved j (.reserved n') :: future)) :
    ∃ n, Sent (movesOf i past) n hash ∧ n.toNat < n'.toNat := by
  obtain ⟨phase, _, goes, trace, -⟩ := h.phase he
  cases goes with
  | read _ _ hc => cases hc
  | follow n =>
    have sent := trace.waiting_inv
    refine ⟨n, sent, ?_⟩
    obtain ⟨before, raw, after, hb, signed⟩ := sent
    obtain ⟨p₁, p₂, rfl, rfl⟩ := movesOf_split hb
    have taken : log = p₁ ++ .moved i (.heard (.sendRawTransaction raw) (.ok hash)) ::
        (p₂ ++ .moved i (.heard (.transactionReceipt hash) answer) ::
          (middle ++ .moved j (.reserved n') :: future)) := he.trans (by simp)
    have later : log = (p₁ ++ .moved i (.heard (.sendRawTransaction raw) (.ok hash)) ::
        (p₂ ++ .moved i (.heard (.transactionReceipt hash) answer) :: middle)) ++
          .moved j (.reserved n') :: future := he.trans (by simp)
    obtain ⟨-, n'', signed', count⟩ := h.accepted taken
    obtain rfl := signed.nonce_inj signed'
    rw [h.reserved later, count, sends_append, sends_taken]
    omega

theorem Run.exhausted {e : ArithmeticError} (h : Run key (fresh next) log (.error e)) :
    next.toNat + sends log = 2 ^ 256 := by
  cases h with
  | snoc run step =>
    cases step with
    | overflow hi goes hn =>
      obtain ⟨phase, stands, holds⟩ := ((inv_of_run run).fits _).running _ hi
      obtain ⟨_, goes', -⟩ := stands.moved goes
      cases goes' with
      | commit n hash =>
        obtain ⟨-, unheld⟩ | ⟨-, -, count⟩ := holds
        · cases unheld
        rw [sends_snoc]
        exact count.symm.trans (Amount.successor_eq_error_iff.mp hn).2

/-- **Nonces have no gap and no duplicate**, whatever the transactions are answered and whenever
they are dropped. -/
theorem consecutive_of_run (h : Run key (fresh next) log outcome) :
    Consecutive next log outcome where
  alone w i j ho hi hj := by
    subst ho
    have inv := inv_of_run h
    exact Option.some.inj ((inv.inFlight hi).symm.trans (inv.inFlight hj))
  signing w i transaction key next ho hi := by
    subst ho
    have inv := inv_of_run h
    obtain ⟨phase, stands, holds⟩ := (inv.fits i).running _ hi
    obtain ⟨_, goes, -⟩ := stands.obeys (.error (.rpc ""))
    cases goes with
    | read _ _ hc => cases hc
    | unsigned _ _ hn =>
      obtain ⟨-, unheld⟩ | ⟨-, held, count⟩ := holds
      · cases unheld
      · exact ⟨_, hn, Option.some.inj held ▸ count⟩
  reserved _ _ _ _ he := h.reserved he
  accepted _ _ _ _ _ he := (h.accepted he).2
  reused _ _ _ _ _ _ _ he hr hs := h.reused he hr hs
  consumed _ _ _ _ _ _ _ _ he := h.consumed he
  held w i ho hi := by
    subst ho
    have inv := inv_of_run h
    obtain ⟨⟨d, hd⟩, -⟩ := (inv.fits i).holding hi
    refine ⟨d, hd, ?_⟩
    rintro result rfl
    obtain ⟨phase, stands, ⟨ho, -⟩ | ⟨-, held, -⟩⟩ := (inv.fits i).running _ hd
    · exact ho hi
    · have unheld : phase.held = none := stands.obeys
      cases unheld.symm.trans held
  free w ho hf := by
    subst ho
    exact (inv_of_run h).free hf
  exhausted e ho := by
    subst ho
    exact h.exhausted

/-! ## A dropped and a sent transaction -/

theorem Run.hears (h : Run key w₀ log (.ok w)) (hi : w.task i = .running d) (path : Path d moves d')
    (heard : ∀ m ∈ moves, ∃ nodeCall answer, m = .heard nodeCall answer) :
    Run key w₀ (log ++ moves.map (.moved i)) (.ok (w.put i (.running d'))) := by
  induction path with
  | nil => simpa [put_self hi] using h
  | @snoc moves m e e' path goes ih =>
    obtain ⟨nodeCall, answer, rfl⟩ := heard m (by simp)
    have run := ih fun m hm => heard m (List.mem_append_left _ hm)
    have step := run.snoc (.hear put_task goes)
    rw [put_put] at step
    simpa using step

end Wallet

namespace Wallet.Sample

open Moment PaymentChannel.Sample

def contract : Address := ⟨2⟩

def signed : SignedTransaction := ⟨.zero, 27, .zero, .zero, [1], .zero⟩

def request : TransactionRequest := ⟨some 7, some contract, 0, some 0, 0, [], some 1⟩

/-- The first transaction is dropped while it is signed, the second one is sent. -/
def moments : List (Moment TaskEvent) := [
  .event (.began 0),
  .moved 0 (.heard (.balanceAt key.address none) (.ok (0 : Amount))),
  .moved 0 (.heard .chainId (.ok ChainId.mainnet)),
  .moved 0 (.reserved 7),
  .event (.dropped 0),
  .event (.began 1),
  .moved 1 (.heard (.balanceAt key.address none) (.ok (0 : Amount))),
  .moved 1 (.heard .chainId (.ok ChainId.mainnet)),
  .moved 1 (.reserved 7),
  .moved 1 (.heard (.signTransaction request key) (.ok signed)),
  .moved 1 (.heard (.sendRawTransaction [1]) (.ok Hash.zero)),
  .moved 1 .committed]

theorem run_moments : ∃ w, Run key (fresh 7) moments (.ok w) := by
  have funds : ¬(0 : Amount) < Amount.saturatingMul 0 0 := by decide
  obtain ⟨d₁, d₂, d₃, d₄, prepare, reserve, awaits, send, commit, -⟩ :=
    transact_taken key contract [] funds .mainnet 7 signed .zero
  have began : Run key (fresh 7) [.event (.began 0)] _ := Run.snoc .nil (.begin contract [] 0 0 rfl)
  have prepared := began.hears put_task prepare (by simp)
  have dropped := (prepared.snoc (.reserve put_task rfl reserve)).snoc (.drop put_task awaits)
  have began' := dropped.snoc (.begin (i := 1) contract [] 0 0 rfl)
  have prepared' := began'.hears put_task prepare (by simp)
  have reserved' := prepared'.snoc (.reserve put_task rfl reserve)
  have sent := reserved'.hears put_task send (by simp)
  exact ⟨_, sent.snoc (.commit put_task commit rfl)⟩

theorem consecutive_sample :
    ∃ w, Run key (fresh 7) moments (.ok w) ∧ Consecutive 7 moments (.ok w) := by
  obtain ⟨w, run⟩ := run_moments
  exact ⟨w, run, consecutive_of_run run⟩

end Wallet.Sample

end PaymentChannel
