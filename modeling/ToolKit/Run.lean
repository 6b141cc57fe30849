import Mathlib.Data.List.Basic

/-! Runs of a partial step function. Every interleaving model of the toolkit is a
`next : State → Action → Option State`, where `none` means the action is not enabled;
its reachable states and its runs over lists of actions are defined once here. -/

namespace ToolKit

variable {σ α : Type} (next : σ → α → Option σ)

/-- Runs the actions in order, failing at the first one that is not enabled. -/
def run : σ → List α → Option σ
  | s, [] => some s
  | s, a :: rest => (next s a).bind fun s' => run s' rest

/-- States the step function reaches from `init` in any number of steps. -/
inductive Reachable (init : σ) : σ → Prop
  | init : Reachable init init
  | step {s s' : σ} (a : α) : Reachable init s → next s a = some s' → Reachable init s'

variable {next}

@[simp] theorem run_nil (s : σ) : run next s [] = some s := rfl

theorem run_cons (s : σ) (a : α) (rest : List α) :
    run next s (a :: rest) = (next s a).bind fun s' => run next s' rest := rfl

theorem run_append (s : σ) (l₁ l₂ : List α) :
    run next s (l₁ ++ l₂) = (run next s l₁).bind fun s' => run next s' l₂ := by
  induction l₁ generalizing s with
  | nil => rfl
  | cons a rest ih =>
    simp only [List.cons_append, run_cons]
    cases next s a with
    | none => rfl
    | some s' => exact ih s'

theorem run_cons_some {s s' : σ} {a : α} {rest : List α} (h : run next s (a :: rest) = some s') :
    ∃ s₁, next s a = some s₁ ∧ run next s₁ rest = some s' := by
  rw [run_cons] at h
  cases h₁ : next s a with
  | none => simp [h₁] at h
  | some s₁ => exact ⟨s₁, rfl, by simpa [h₁] using h⟩

theorem Reachable.run {init s s' : σ} {l : List α} (hs : Reachable next init s)
    (h : ToolKit.run next s l = some s') : Reachable next init s' := by
  induction l generalizing s with
  | nil => exact (Option.some.inj h) ▸ hs
  | cons a rest ih =>
    obtain ⟨s₁, h₁, hrest⟩ := run_cons_some h
    exact ih (hs.step a h₁) hrest

/-- A state that a run of the given actions ends in is reachable. -/
theorem reachable_of_run (next : σ → α → Option σ) {init s : σ} (l : List α)
    (h : ToolKit.run next init l = some s) : Reachable next init s :=
  Reachable.init.run h

/-- An invariant that holds initially and survives every enabled step holds everywhere. -/
theorem Reachable.induct_on {init s : σ} (P : σ → Prop) (h0 : P init)
    (hstep : ∀ s a s', P s → next s a = some s' → P s') (hs : Reachable next init s) : P s := by
  induction hs with
  | init => exact h0
  | step a _ h ih => exact hstep _ a _ ih h

/-- A run that ends in a state satisfying a decidable test witnesses a reachable such state. -/
theorem exists_reachable_of_run (next : σ → α → Option σ) (init : σ) (l : List α) (p : σ → Bool)
    (h : (ToolKit.run next init l).map p = some true) : ∃ s, Reachable next init s ∧ p s = true := by
  cases hr : ToolKit.run next init l with
  | none => simp [hr] at h
  | some s =>
    simp only [hr, Option.map_some', Option.some.injEq] at h
    exact ⟨s, Reachable.init.run hr, h⟩

/-- Counting after overwriting one entry of a list of program counters. -/
theorem countP_set_add {β : Type} {l : List β} {t : Nat} {x : β} (y : β) (p : β → Bool)
    (h : l[t]? = some x) :
    (l.set t y).countP p + (if p x then 1 else 0) = l.countP p + (if p y then 1 else 0) := by
  obtain ⟨lt, rfl⟩ := List.getElem?_eq_some_iff.mp h
  have le := List.boole_getElem_le_countP p l t lt
  rw [List.countP_set p l t y lt]
  split <;> split <;> simp_all

/-- An entry of a list after `set` that differs from the value set was there before. -/
theorem getElem?_of_set_ne {α : Type} {xs : List α} {i j : Nat} {a b : α} (h : (xs.set i a)[j]? = some b)
    (ne : a ≠ b) : xs[j]? = some b := by
  rw [List.getElem?_set] at h
  split_ifs at h
  · exact absurd (Option.some.inj h) ne
  · exact h

/-- An entry of a list with one entry appended is an old entry or the new one. -/
theorem getElem?_append_singleton {α : Type} {xs : List α} {x c : α} {p : Nat} (h : (xs ++ [x])[p]? = some c) :
    xs[p]? = some c ∨ p = xs.length ∧ c = x := by
  rw [List.getElem?_append] at h
  split_ifs at h with lt
  · exact .inl h
  · rcases hi : p - xs.length with _ | i <;> rw [hi] at h
    · simp only [List.getElem?_cons_zero, Option.some.injEq] at h
      exact .inr ⟨by omega, h.symm⟩
    · simp at h

/-- Reading a list after `modify` at a position whose entry is known. -/
theorem getElem?_modify_of_getElem? {α : Type} {xs : List α} {p : Nat} {x : α} (f : α → α) (h : xs[p]? = some x)
    (q : Nat) : (xs.modify f p)[q]? = if p = q then some (f x) else xs[q]? := by
  rw [List.getElem?_modify]
  split_ifs with same
  · subst same; rw [h]; rfl
  · cases xs[q]? <;> rfl

end ToolKit
