import Mathlib.Data.List.Basic

/-!
# Runs with a log

* `Logged` : the steps that a log lists lead from one state to another.
* `Logged.append`, `Logged.split` : runs are joined and taken apart where their logs are.
* `snoc_eq_append_cons_iff`, `filterMap_snoc` : a log that goes on.
-/

namespace PaymentChannel

variable {σ ε : Type} {step : σ → ε → σ → Prop} {w₀ w₁ w₂ w : σ} {log past future : List ε}
  {entry last : ε}

theorem snoc_eq_append_cons_iff : log ++ [last] = past ++ entry :: future ↔
    (log = past ∧ last = entry ∧ future = []) ∨
      ∃ before, future = before ++ [last] ∧ log = past ++ entry :: before := by
  constructor
  · intro h
    rcases List.eq_nil_or_concat future with rfl | ⟨before, last', rfl⟩
    · obtain ⟨hl, he⟩ := List.append_inj' h rfl
      exact Or.inl ⟨hl, List.singleton_inj.mp he, rfl⟩
    · rw [List.concat_eq_append, ← List.cons_append, ← List.append_assoc] at h
      obtain ⟨hl, he⟩ := List.append_inj' h rfl
      exact Or.inr ⟨before, by rw [List.concat_eq_append, List.singleton_inj.mp he], hl⟩
  · rintro (⟨rfl, rfl, rfl⟩ | ⟨before, rfl, rfl⟩)
    · rfl
    · rw [List.append_assoc, List.cons_append]

theorem filterMap_snoc {β : Type} (f : ε → Option β) :
    (log ++ [last]).filterMap f = log.filterMap f ++ (f last).toList := by
  rw [List.filterMap_append]
  cases h : f last <;> simp [h]

/-- The steps that the log lists lead from the one state to the other. -/
inductive Logged {σ ε : Type} (step : σ → ε → σ → Prop) (w₀ : σ) : List ε → σ → Prop
  | nil : Logged step w₀ [] w₀
  | snoc {log : List ε} {w w' : σ} {entry : ε} (run : Logged step w₀ log w)
      (h : step w entry w') : Logged step w₀ (log ++ [entry]) w'

namespace Logged

theorem append (h : Logged step w₀ past w₁) (g : Logged step w₁ future w₂) :
    Logged step w₀ (past ++ future) w₂ := by
  induction g with
  | nil => rwa [List.append_nil]
  | snoc _ last ih =>
    rw [← List.append_assoc]
    exact ih.snoc last

theorem single (h : step w₀ entry w) : Logged step w₀ [entry] w := snoc .nil h

theorem last_step (h : Logged step w₀ (log ++ [entry]) w) :
    ∃ w₁, Logged step w₀ log w₁ ∧ step w₁ entry w := by
  generalize he : log ++ [entry] = whole at h
  cases h with
  | nil => simp at he
  | snoc run last =>
    obtain ⟨rfl, hl⟩ := List.append_inj' he rfl
    cases hl
    exact ⟨_, run, last⟩

/-- A run passes the entry at every place of its log. -/
theorem split (h : Logged step w₀ log w) (he : log = past ++ entry :: future) :
    ∃ w₁ w₂, Logged step w₀ past w₁ ∧ step w₁ entry w₂ ∧ Logged step w₂ future w := by
  induction h generalizing future with
  | nil => exact absurd he (by simp)
  | @snoc log w w' last run hl ih =>
    rcases snoc_eq_append_cons_iff.mp he with ⟨rfl, rfl, rfl⟩ | ⟨before, rfl, hb⟩
    · exact ⟨w, w', run, hl, .nil⟩
    · obtain ⟨w₁, w₂, early, now, late⟩ := ih hb
      exact ⟨w₁, w₂, early, now, late.snoc hl⟩

end Logged

end PaymentChannel
