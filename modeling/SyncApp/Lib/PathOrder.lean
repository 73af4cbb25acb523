import Mathlib.Data.List.Lex
import Mathlib.Order.Lattice

/-!
# Two orders on paths

A path is the list of its names; its spelling joins the names with a separator. A directory walk
that sorts the names of each directory visits files in the order of the name lists; a table of
spellings is sorted as strings. This module says where the two orders differ.

**The law** (`spell_lt_spell`): of two paths in name order, the spellings are in the same order
unless the paths are `Inverted`: they part at a name `d` of the first that the second continues
as `d ++ c :: s` with a character `c` below the separator, and the first goes on below `d`. Then
`d` sorts before `d ++ c :: s`, while the separator that follows `d` in the spelling sorts after
`c`.

`parts_spell` is the round trip of spelling and splitting for legal names. Nothing here reads a
file system.
-/

set_option autoImplicit false

namespace Lib

namespace PathOrder

variable {χ : Type}

/-- A path's spelling: its names joined by the separator. -/
def spell (sep : χ) (path : List (List χ)) : List χ :=
  [sep].intercalate path

/-- A name that a spelling keeps apart: not empty, and free of the separator. -/
structure Legal (sep : χ) (name : List χ) : Prop where
  nonempty : name ≠ []
  apart : sep ∉ name

/-- The names of a spelling: what stands between separators, without the empty pieces. -/
def parts [DecidableEq χ] (sep : χ) (text : List χ) : List (List χ) :=
  (text.splitOn sep).filter (fun piece => !piece.isEmpty)

/-- A piece holds no separator. -/
theorem not_mem_of_mem_splitOn [DecidableEq χ] {text piece : List χ} {sep : χ}
    (mem : piece ∈ text.splitOn sep) : sep ∉ piece := by
  induction text generalizing piece with
  | nil =>
    rw [List.splitOn_nil, List.mem_singleton] at mem
    rw [mem]
    exact List.not_mem_nil
  | cons c text ih =>
    rw [List.splitOn_cons_eq_if_modifyHead] at mem
    split at mem
    next =>
      rcases List.mem_cons.mp mem with rfl | later
      · exact List.not_mem_nil
      · exact ih later
    next other =>
      cases pieces : text.splitOn sep with
      | nil => exact (List.splitOn_ne_nil _ _ pieces).elim
      | cons first rest =>
        rw [pieces, List.modifyHead_cons] at mem
        rcases List.mem_cons.mp mem with rfl | later
        · intro held
          rcases List.mem_cons.mp held with same | inside
          · exact other (beq_iff_eq.mpr same.symm)
          · exact ih (pieces ▸ List.mem_cons_self) inside
        · exact ih (pieces ▸ List.mem_cons_of_mem _ later)

theorem spell_cons {sep : χ} {name : List χ} {path : List (List χ)} (more : path ≠ []) :
    spell sep (name :: path) = name ++ sep :: spell sep path := by
  unfold spell
  rw [List.intercalate_cons_of_ne_nil more, List.append_assoc, List.singleton_append]

/-- Splitting the spelling of legal names gives the names back. -/
theorem parts_spell [DecidableEq χ] {sep : χ} {path : List (List χ)}
    (legal : ∀ name ∈ path, Legal sep name) : parts sep (spell sep path) = path := by
  unfold parts spell
  by_cases empty : path = []
  · subst empty
    rfl
  · rw [List.splitOn_intercalate sep (fun name mem => (legal name mem).apart) empty]
    refine List.filter_eq_self.mpr fun name mem => ?_
    simpa using (legal name mem).nonempty

/-- Legal paths with one spelling are one path. -/
theorem spell_injective [DecidableEq χ] {sep : χ} {first second : List (List χ)}
    (one : ∀ name ∈ first, Legal sep name) (other : ∀ name ∈ second, Legal sep name)
    (same : spell sep first = spell sep second) : first = second := by
  rw [← parts_spell one, same, parts_spell other]

theorem spell_ne_nil {sep : χ} {path : List (List χ)} (legal : ∀ name ∈ path, Legal sep name)
    (more : path ≠ []) : spell sep path ≠ [] := by
  cases path with
  | nil => exact absurd rfl more
  | cons name rest =>
    have named := (legal name List.mem_cons_self).nonempty
    by_cases last : rest = []
    · subst last
      simpa only [spell, List.intercalate_singleton] using named
    · rw [spell_cons last]
      exact List.append_ne_nil_of_left_ne_nil named _

/-- The spelling of a path begins with its first name; what follows is nothing, or starts with the
separator. -/
theorem spell_head (sep : χ) (name : List χ) (path : List (List χ)) :
    ∃ tail, spell sep (name :: path) = name ++ tail ∧
      (path = [] → tail = []) ∧ (path ≠ [] → tail = sep :: spell sep path) := by
  by_cases last : path = []
  · subst last
    exact ⟨[], by simp only [spell, List.intercalate_singleton, List.append_nil],
      fun _ => rfl, fun more => absurd rfl more⟩
  · exact ⟨sep :: spell sep path, spell_cons last, fun empty => absurd empty last, fun _ => rfl⟩

/-! ## Where the orders differ -/

section Order

variable [LinearOrder χ]

/-- **The paths are inverted**: they part where the second's name continues the first's with a
character below the separator, and the first goes on below that name. -/
def Inverted (sep : χ) (first second : List (List χ)) : Prop :=
  ∃ (front : List (List χ)) (d : List χ) (c : χ) (s x : List χ) (xs ys : List (List χ)),
    first = front ++ d :: x :: xs ∧ second = front ++ (d ++ c :: s) :: ys ∧ c < sep

theorem append_lt_append_left_iff {front first second : List χ} :
    front ++ first < front ++ second ↔ first < second := by
  induction front with
  | nil => rfl
  | cons c front ih => rw [List.cons_append, List.cons_append, List.cons_lt_cons_self, ih]

theorem lt_append_of_ne_nil (front : List χ) {back : List χ} (more : back ≠ []) : front < front ++ back := by
  have grown : front ++ [] < front ++ back := by
    rw [append_lt_append_left_iff]
    cases back with
    | nil => exact absurd rfl more
    | cons c back => exact List.nil_lt_cons c back
  simpa only [List.append_nil] using grown

/-- Inverted paths are in name order. -/
theorem Inverted.lt {sep : χ} {first second : List (List χ)} (inverted : Inverted sep first second) :
    first < second := by
  obtain ⟨front, d, c, s, x, xs, ys, rfl, rfl, -⟩ := inverted
  exact append_lt_append_left_iff.mpr
    (List.cons_lt_cons_iff.mpr (.inl (lt_append_of_ne_nil _ (List.cons_ne_nil c s))))

/-- Of two strings in order, the first is a beginning of the second, or they part at a place where
the first is smaller. -/
theorem lt_cases {first second : List χ} (below : first < second) :
    (∃ c s, second = first ++ c :: s) ∨
      ∃ front a b as bs, first = front ++ a :: as ∧ second = front ++ b :: bs ∧ a < b := by
  induction first generalizing second with
  | nil =>
    cases second with
    | nil => exact absurd below (lt_irrefl _)
    | cons c s => exact .inl ⟨c, s, rfl⟩
  | cons a as ih =>
    cases second with
    | nil => exact absurd below (List.not_lt_nil _)
    | cons b bs =>
      rcases List.cons_lt_cons_iff.mp below with less | ⟨rfl, rest⟩
      · exact .inr ⟨[], a, b, as, bs, rfl, rfl, less⟩
      · rcases ih rest with ⟨c, s, rfl⟩ | ⟨front, a', b', as', bs', rfl, rfl, less⟩
        · exact .inl ⟨c, s, rfl⟩
        · exact .inr ⟨a :: front, a', b', as', bs', rfl, rfl, less⟩

/-- Names that part below each other part below each other in every spelling. -/
theorem spell_lt_of_parted {sep : χ} {front as bs : List χ} {a b : χ} {xs ys : List (List χ)}
    (less : a < b) :
    spell sep ((front ++ a :: as) :: xs) < spell sep ((front ++ b :: bs) :: ys) := by
  obtain ⟨tail, spelled, -, -⟩ := spell_head sep (front ++ a :: as) xs
  obtain ⟨tail', spelled', -, -⟩ := spell_head sep (front ++ b :: bs) ys
  rw [spelled, spelled', List.append_assoc, List.append_assoc, append_lt_append_left_iff]
  exact List.cons_lt_cons_iff.mpr (.inl less)

theorem Inverted.of_tail {sep : χ} {name : List χ} {first second : List (List χ)} :
    Inverted sep (name :: first) (name :: second) ↔ Inverted sep first second := by
  constructor
  · rintro ⟨front, d, c, s, x, xs, ys, one, other, less⟩
    cases front with
    | nil =>
      -- the paths would part at their common first name
      obtain ⟨rfl, -⟩ := List.cons.inj one
      have grown : name.length = (name ++ c :: s).length := congrArg List.length (List.cons.inj other).1
      rw [List.length_append, List.length_cons] at grown
      omega
    | cons head front =>
      exact ⟨front, d, c, s, x, xs, ys, (List.cons.inj one).2, (List.cons.inj other).2, less⟩
  · rintro ⟨front, d, c, s, x, xs, ys, rfl, rfl, less⟩
    exact ⟨name :: front, d, c, s, x, xs, ys, rfl, rfl, less⟩

/-- Paths that part at their first names are inverted only there. -/
theorem Inverted.of_heads {sep : χ} {a b : List χ} {first second : List (List χ)} (apart : a ≠ b)
    (inverted : Inverted sep (a :: first) (b :: second)) :
    first ≠ [] ∧ ∃ c s, b = a ++ c :: s ∧ c < sep := by
  obtain ⟨front, d, c, s, x, xs, ys, one, other, less⟩ := inverted
  cases front with
  | nil =>
    obtain ⟨rfl, rfl⟩ := List.cons.inj one
    exact ⟨List.cons_ne_nil _ _, c, s, (List.cons.inj other).1, less⟩
  | cons head front =>
    exact absurd ((List.cons.inj one).1.trans (List.cons.inj other).1.symm) apart

/-- **Where the orders differ**: of two legal paths in name order, the spellings are in order
exactly when the paths are not inverted. -/
theorem spell_lt_spell {sep : χ} : ∀ {first second : List (List χ)},
    (∀ name ∈ first, Legal sep name) → (∀ name ∈ second, Legal sep name) → first < second →
      (spell sep first < spell sep second ↔ ¬ Inverted sep first second)
  | [], [], _, _, below => absurd below (lt_irrefl _)
  | [], b :: second, _, legal, _ => by
    have spelled : spell sep ([] : List (List χ)) < spell sep (b :: second) :=
      lt_append_of_ne_nil [] (spell_ne_nil legal (List.cons_ne_nil _ _))
    refine iff_of_true spelled ?_
    rintro ⟨front, d, c, s, x, xs, ys, one, -⟩
    exact List.append_ne_nil_of_right_ne_nil front (List.cons_ne_nil _ _) one.symm
  | a :: first, [], _, _, below => absurd below (List.not_lt_nil _)
  | a :: first, b :: second, one, other, below => by
    rcases List.cons_lt_cons_iff.mp below with less | ⟨rfl, rest⟩
    · have apart : a ≠ b := ne_of_lt less
      rcases lt_cases less with ⟨c, s, rfl⟩ | ⟨front, x, y, as, bs, rfl, rfl, smaller⟩
      · -- the second's name continues the first's: what follows the first decides
        obtain ⟨tail, spelled, empty, more⟩ := spell_head sep a first
        obtain ⟨tail', spelled', -, -⟩ := spell_head sep (a ++ c :: s) second
        rw [spelled, spelled', List.append_assoc, append_lt_append_left_iff]
        by_cases last : first = []
        · rw [empty last]
          exact iff_of_true (List.nil_lt_cons _ _) fun inverted => (inverted.of_heads apart).1 last
        · rw [more last, List.cons_append, List.cons_lt_cons_iff]
          have fresh : sep ≠ c := fun same => (other _ List.mem_cons_self).apart
            (List.mem_append_right a (same ▸ List.mem_cons_self))
          constructor
          · rintro (after | ⟨same, -⟩) inverted
            · obtain ⟨-, c', s', continued, before⟩ := inverted.of_heads apart
              obtain ⟨rfl, -⟩ := List.cons.inj (List.append_cancel_left continued)
              exact absurd (lt_trans after before) (lt_irrefl _)
            · exact fresh same
          · intro straight
            refine .inl (lt_of_le_of_ne (not_lt.mp fun before => straight ?_) fresh)
            obtain ⟨x, xs, rfl⟩ := List.exists_cons_of_ne_nil last
            exact ⟨[], a, c, s, x, xs, second, rfl, rfl, before⟩
      · -- the names part: so do the spellings
        refine iff_of_true (spell_lt_of_parted smaller) fun inverted => ?_
        obtain ⟨-, c, s, continued, -⟩ := inverted.of_heads apart
        rw [List.append_assoc] at continued
        exact absurd (List.cons.inj (List.append_cancel_left continued)).1 (ne_of_gt smaller)
    · have deeper := spell_lt_spell (fun name mem => one name (List.mem_cons_of_mem _ mem))
        (fun name mem => other name (List.mem_cons_of_mem _ mem)) rest
      rw [Inverted.of_tail, ← deeper]
      have more : second ≠ [] := by
        rintro rfl
        exact List.not_lt_nil _ rest
      by_cases last : first = []
      · subst last
        obtain ⟨tail, spelled, empty, -⟩ := spell_head sep a []
        rw [spelled, empty rfl, List.append_nil, spell_cons more]
        refine iff_of_true (lt_append_of_ne_nil _ (List.cons_ne_nil _ _)) ?_
        exact lt_append_of_ne_nil []
          (spell_ne_nil (fun name mem => other name (List.mem_cons_of_mem _ mem)) more)
      · rw [spell_cons last, spell_cons more, append_lt_append_left_iff, List.cons_lt_cons_self]

end Order

end PathOrder

end Lib
