import Mathlib.Data.List.Sort

/-!
# The front of a sorted list

An element of a sorted list without duplicates is among the first `n` exactly when fewer than `n`
others come before it, in whatever order the list was before it was sorted.
-/

set_option autoImplicit false

namespace Lib.Ranked

variable {α : Type} [DecidableEq α] {r : α → α → Prop} [DecidableRel r] {l : List α} {x : α}

/-- How many others of a list come before an element. -/
def ahead (r : α → α → Prop) [DecidableRel r] (l : List α) (x : α) : Nat :=
  l.countP fun y => y ≠ x ∧ r y x

theorem ahead_eq_zero (none : ∀ y ∈ l, y ≠ x → ¬r y x) : ahead r l x = 0 := by
  rw [ahead, List.countP_eq_zero]
  intro y member counted
  obtain ⟨apart, before⟩ := of_decide_eq_true counted
  exact none y member apart before

theorem mem_take_iff (sorted : l.Pairwise r) (nodup : l.Nodup)
    (antisymm : ∀ y ∈ l, ∀ z ∈ l, r y z → r z y → y = z) (member : x ∈ l) (n : Nat) :
    x ∈ l.take n ↔ ahead r l x < n := by
  induction l generalizing n with
  | nil => cases member
  | cons a l ih =>
    obtain ⟨first, sorted⟩ := List.pairwise_cons.mp sorted
    obtain ⟨fresh, nodup⟩ := List.nodup_cons.mp nodup
    cases n with
    | zero => exact iff_of_false List.not_mem_nil (Nat.not_lt_zero _)
    | succ n =>
      rw [List.take_succ_cons, List.mem_cons]
      obtain rfl | there := List.mem_cons.mp member
      · refine iff_of_true (.inl rfl) ?_
        rw [ahead_eq_zero]
        · exact Nat.zero_lt_succ n
        · intro y here apart before
          obtain rfl | here := List.mem_cons.mp here
          · exact apart rfl
          · exact apart (antisymm y (List.mem_cons_of_mem _ here) x List.mem_cons_self before
              (first y here))
      · have apart : a ≠ x := fun same => fresh (same ▸ there)
        have counted : ahead r (a :: l) x = ahead r l x + 1 :=
          List.countP_cons_of_pos (decide_eq_true ⟨apart, first x there⟩)
        rw [counted, Nat.add_lt_add_iff_right, ← ih sorted nodup
          (fun y yl z zl => antisymm y (List.mem_cons_of_mem _ yl) z (List.mem_cons_of_mem _ zl))
          there n]
        exact or_iff_right fun same => apart same.symm

/-- The same of the list that was sorted. -/
theorem mem_take_insertionSort_iff [Std.Total r] [IsTrans α r] (nodup : l.Nodup)
    (antisymm : ∀ y ∈ l, ∀ z ∈ l, r y z → r z y → y = z) (member : x ∈ l) (n : Nat) :
    x ∈ (l.insertionSort r).take n ↔ ahead r l x < n := by
  have perm := List.perm_insertionSort r l
  have counted : ahead r (l.insertionSort r) x = ahead r l x := perm.countP_eq _
  rw [← counted]
  refine mem_take_iff (List.pairwise_insertionSort r l) (perm.nodup_iff.mpr nodup) ?_
    (perm.mem_iff.mpr member) n
  exact fun y yl z zl => antisymm y (perm.mem_iff.mp yl) z (perm.mem_iff.mp zl)

end Lib.Ranked
