import Mathlib.Data.List.Basic

/-!
# Rows by their key

A table is a list of rows, and the row of a key is the first one with that key. What replacing one
row by another with its key, and adding a row, do to the row of each key.
-/

set_option autoImplicit false

namespace Lib.Rows

variable {ρ κ : Type} [DecidableEq ρ] [DecidableEq κ] {key : ρ → κ} {rows : List ρ}
  {current replacement : ρ}

theorem find_replace (same : key replacement = key current) (rows : List ρ) (k : κ) :
    (rows.map fun row => if row = current then replacement else row).find? (key · = k) =
      (rows.find? (key · = k)).map fun row => if row = current then replacement else row := by
  have keeps : ∀ row, key (if row = current then replacement else row) = key row := by
    intro row
    split
    next here => rw [here, same]
    next => rfl
  rw [List.find?_map]
  simp only [Function.comp_def, keeps]

/-- The row that was replaced. -/
theorem find_replaced {k : κ} (same : key replacement = key current)
    (found : rows.find? (key · = k) = some current) :
    (rows.map fun row => if row = current then replacement else row).find? (key · = k) =
      some replacement := by
  rw [find_replace same, found]
  exact congrArg some (if_pos rfl)

/-- The row of another key. -/
theorem find_replace_apart {k : κ} (same : key replacement = key current)
    (apart : k ≠ key current) :
    (rows.map fun row => if row = current then replacement else row).find? (key · = k) =
      rows.find? (key · = k) := by
  rw [find_replace same]
  cases found : rows.find? (key · = k) with
  | none => rfl
  | some row =>
    refine congrArg some (if_neg fun here => apart ?_)
    have keyed : key row = k := by simpa using List.find?_some found
    rw [← keyed, here]

omit [DecidableEq ρ] in
/-- A row that was added where there was none. -/
theorem find_added {k : κ} (absent : rows.find? (key · = k) = none) (here : key replacement = k) :
    (rows ++ [replacement]).find? (key · = k) = some replacement := by
  rw [List.find?_append, absent]
  simp [here]

omit [DecidableEq ρ] in
/-- A row of another key that was added. -/
theorem find_added_apart {k : κ} (apart : key replacement ≠ k) :
    (rows ++ [replacement]).find? (key · = k) = rows.find? (key · = k) := by
  rw [List.find?_append]
  simp [apart]

end Lib.Rows
