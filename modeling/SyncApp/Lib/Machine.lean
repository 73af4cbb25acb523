import Mathlib.Data.List.Basic

/-!
# Runs of calls

A machine answers each call and moves on: `perform call s` is the answer to `call` in `s` and the
state after it. A run is a list of calls from a state.

`Along` says that every call of a run meets a condition where it is made. A property that the calls
meeting it keep holds at the end of the run (`Along.keeps`), and a number that grows by one with
each call that counts is the tally of those calls (`Along.measure`).
-/

set_option autoImplicit false

namespace Lib.Machine

variable {σ κ ρ : Type} (perform : κ → σ → ρ × σ)

/-- The state after a run. -/
def after : σ → List κ → σ
  | s, [] => s
  | s, call :: calls => after (perform call s).2 calls

/-- Every call of a run meets a condition where it is made. -/
def Along (meets : σ → κ → Prop) : σ → List κ → Prop
  | _, [] => True
  | s, call :: calls => meets s call ∧ Along meets (perform call s).2 calls

instance (meets : σ → κ → Prop) [∀ s call, Decidable (meets s call)] :
    ∀ s calls, Decidable (Along perform meets s calls)
  | _, [] => .isTrue trivial
  | s, call :: calls =>
    haveI := instDecidableAlong meets (perform call s).2 calls
    inferInstanceAs (Decidable (meets s call ∧ Along perform meets (perform call s).2 calls))

/-- How many calls of a run count. -/
def tally (counts : κ → ρ → Bool) : σ → List κ → Nat
  | _, [] => 0
  | s, call :: calls =>
    (if counts call (perform call s).1 then 1 else 0) + tally counts (perform call s).2 calls

variable {perform} {meets meets' : σ → κ → Prop} {s : σ} {calls : List κ}

theorem after_append (s : σ) (calls more : List κ) :
    after perform s (calls ++ more) = after perform (after perform s calls) more := by
  induction calls generalizing s with
  | nil => rfl
  | cons call calls ih => exact ih (perform call s).2

namespace Along

theorem mono (weaker : ∀ s call, meets s call → meets' s call)
    (along : Along perform meets s calls) : Along perform meets' s calls := by
  induction calls generalizing s with
  | nil => trivial
  | cons call calls ih => exact ⟨weaker s call along.1, ih along.2⟩

/-- A condition on the call alone. -/
theorem of_forall {allowed : κ → Prop} (all : ∀ call ∈ calls, allowed call) :
    Along perform (fun _ call => allowed call) s calls := by
  induction calls generalizing s with
  | nil => trivial
  | cons call calls ih =>
    exact ⟨all call List.mem_cons_self, ih fun c there => all c (List.mem_cons_of_mem _ there)⟩

theorem and (first : Along perform meets s calls) (second : Along perform meets' s calls) :
    Along perform (fun s call => meets s call ∧ meets' s call) s calls := by
  induction calls generalizing s with
  | nil => trivial
  | cons call calls ih => exact ⟨⟨first.1, second.1⟩, ih first.2 second.2⟩

/-- What every call that meets the condition keeps. -/
theorem keeps (inv : σ → Prop)
    (step : ∀ s call, inv s → meets s call → inv (perform call s).2)
    (along : Along perform meets s calls) (holds : inv s) : inv (after perform s calls) := by
  induction calls generalizing s with
  | nil => exact holds
  | cons call calls ih => exact ih along.2 (step s call holds along.1)

/-- A number that grows with the calls that count, and with no others. -/
theorem measure (inv : σ → Prop) (measure : σ → Nat) {counts : κ → ρ → Bool}
    (step : ∀ s call, inv s → meets s call → inv (perform call s).2)
    (grows : ∀ s call, inv s → meets s call →
      measure (perform call s).2 = measure s + if counts call (perform call s).1 then 1 else 0)
    (along : Along perform meets s calls) (holds : inv s) :
    measure (after perform s calls) = measure s + tally perform counts s calls := by
  induction calls generalizing s with
  | nil => rfl
  | cons call calls ih =>
    have rest := ih along.2 (step s call holds along.1)
    have here := grows s call holds along.1
    show measure (after perform (perform call s).2 calls) = _
    rw [rest, here]
    exact Nat.add_assoc _ _ _

end Along

/-- What every call keeps. -/
theorem after_keeps (inv : σ → Prop) (step : ∀ s call, inv s → inv (perform call s).2)
    (calls : List κ) (holds : inv s) : inv (after perform s calls) := by
  induction calls generalizing s with
  | nil => exact holds
  | cons call calls ih => exact ih (step s call holds)

end Lib.Machine
