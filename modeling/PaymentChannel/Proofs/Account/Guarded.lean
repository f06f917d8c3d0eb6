import Mathlib.Logic.Function.Basic
import PaymentChannel.Proofs.Account.Move

/-!
# Tasks that take turns

* `Guarded` : a value that one task at a time may hold, and the tasks.
* `Guarded.put`, `Guarded.freed` : a change of one task, and the end of its turn.
* `Moment` : an entry of the log of several tasks.  Besides their moves it has events of its own.
* `Moment.movesOf` : the moves of one task.
-/

namespace PaymentChannel

/-- A value that one task at a time may hold, who holds it, and the tasks. -/
structure Guarded (σ τ : Type) where
  value : σ
  holder : Option Nat
  task : Nat → τ

namespace Guarded

variable {σ τ : Type} {w : Guarded σ τ} {i j : Nat} {state : τ}

def put (w : Guarded σ τ) (i : Nat) (state : τ) : Guarded σ τ :=
  { w with task := Function.update w.task i state }

/-- The holder, if it is the given task, lets go. -/
def freed (w : Guarded σ τ) (i : Nat) : Guarded σ τ :=
  { w with holder := if w.holder = some i then none else w.holder }

@[simp] theorem put_task : (w.put i state).task i = state := Function.update_self ..

theorem put_self (h : w.task i = state) : w.put i state = w := by
  rw [put, ← h, Function.update_eq_self]

theorem put_put (w : Guarded σ τ) (i : Nat) (state state' : τ) :
    (w.put i state).put i state' = w.put i state' := by
  rw [put, put, put, Function.update_idem]

theorem freed_holder_self : (w.freed i).holder ≠ some i := by
  unfold freed
  dsimp only
  split
  · exact (nomatch ·)
  · assumption

theorem freed_holder (h : w.holder ≠ some i) : (w.freed i).holder = w.holder := if_neg h

theorem freed_holder_iff (h : j ≠ i) : (w.freed i).holder = some j ↔ w.holder = some j := by
  unfold freed
  dsimp only
  split
  · next hi =>
    rw [hi]
    exact ⟨(nomatch ·), fun he => absurd (Option.some.inj he).symm h⟩
  · exact Iff.rfl

end Guarded

/-- An entry of the log of several tasks. -/
inductive Moment (Event : Type) where
  | moved (task : Nat) (move : Move)
  | event (event : Event)

namespace Moment

variable {Event : Type} {log : List (Moment Event)} {moment : Moment Event} {i j : Nat} {m : Move}

def moveOf (i : Nat) : Moment Event → Option Move
  | moved j move => if j = i then some move else none
  | event _ => none

/-- The moves of one task. -/
def movesOf (i : Nat) (log : List (Moment Event)) : List Move := log.filterMap (moveOf i)

theorem moveOf_eq_some_iff : moveOf i moment = some m ↔ moment = .moved i m := by
  cases moment with
  | moved j m' => simp [moveOf]
  | event => exact ⟨(nomatch ·), (nomatch ·)⟩

theorem moveOf_moved_of_ne (h : j ≠ i) : moveOf j (.moved i m : Moment Event) = none :=
  if_neg h.symm

theorem movesOf_moved : movesOf i (log ++ [.moved i m]) = movesOf i log ++ [m] := by
  simp [movesOf, moveOf]

theorem movesOf_other (h : moveOf i moment = none) :
    movesOf i (log ++ [moment]) = movesOf i log := by
  simp [movesOf, h]

theorem movesOf_subset (i : Nat) (moment : Moment Event) :
    movesOf i log ⊆ movesOf i (log ++ [moment]) := by
  rw [movesOf, movesOf, List.filterMap_append]
  exact List.subset_append_left _ _

theorem movesOf_append (past future : List (Moment Event)) :
    movesOf i (past ++ future) = movesOf i past ++ movesOf i future := List.filterMap_append

theorem movesOf_moves (moves : List Move) :
    movesOf i (moves.map (.moved i) : List (Moment Event)) = moves := by
  induction moves with
  | nil => rfl
  | cons m rest ih => simpa [movesOf, moveOf] using ih

theorem movesOf_split {before after : List Move} (h : movesOf i log = before ++ m :: after) :
    ∃ past future, log = past ++ .moved i m :: future ∧ movesOf i past = before := by
  obtain ⟨past, rest, rfl, hb, hr⟩ := List.filterMap_eq_append_iff.mp h
  obtain ⟨skipped, moment, future, rfl, hs, hm, -⟩ := List.filterMap_eq_cons_iff.mp hr
  obtain rfl := moveOf_eq_some_iff.mp hm
  refine ⟨past ++ skipped, future, (List.append_assoc ..).symm, ?_⟩
  rw [movesOf, List.filterMap_append, hb, List.filterMap_eq_nil_iff.mpr hs, List.append_nil]

end Moment

end PaymentChannel
