import Mathlib.Algebra.Group.Nat.Defs
import Mathlib.Data.Nat.Basic

/-!
# Dates of the Gregorian calendar, and timestamps

A day is counted from the first of January of the year one, a time in microseconds from its
midnight. `dateOf` takes the count of a day apart by its cycles of years, as `ordinal` puts it
together again (`ordinal_dateOf`). `render` spells a time in UTC, with microseconds where there are
any, and `parse` reads that form and no other: `parse_render`.
-/

set_option autoImplicit false

namespace Lib.Calendar

structure Date where
  year : Nat
  month : Nat
  day : Nat
deriving DecidableEq

def isLeap (year : Nat) : Bool := year % 4 = 0 && (year % 100 ≠ 0 || year % 400 = 0)

def daysBeforeYear (year : Nat) : Nat :=
  (year - 1) * 365 + (year - 1) / 4 - (year - 1) / 100 + (year - 1) / 400

/-- The days of a year before its month. -/
def daysBeforeMonth (leap : Bool) : Nat → Nat
  | 1 => 0
  | 2 => 31
  | month =>
    (if leap then 1 else 0) + match month with
      | 3 => 59
      | 4 => 90
      | 5 => 120
      | 6 => 151
      | 7 => 181
      | 8 => 212
      | 9 => 243
      | 10 => 273
      | 11 => 304
      | _ => 334

def daysInMonth (leap : Bool) : Nat → Nat
  | 2 => if leap then 29 else 28
  | 4 | 6 | 9 | 11 => 30
  | _ => 31

/-- The date is one of the calendar. -/
def Date.Valid (date : Date) : Prop :=
  1 ≤ date.year ∧ 1 ≤ date.month ∧ date.month ≤ 12 ∧ 1 ≤ date.day ∧
    date.day ≤ daysInMonth (isLeap date.year) date.month

instance (date : Date) : Decidable date.Valid :=
  inferInstanceAs (Decidable (_ ∧ _ ∧ _ ∧ _ ∧ _))

/-- The days before a date. -/
def ordinal (date : Date) : Nat :=
  daysBeforeYear date.year + daysBeforeMonth (isLeap date.year) date.month + (date.day - 1)

/-- The month of a day of the year, and the day of the month, both counted from one. The estimate
is a month too late at most. -/
def monthDay (leap : Bool) (n : Nat) : Nat × Nat :=
  let month := (n + 50) / 32
  if daysBeforeMonth leap month > n then
    (month - 1, n - daysBeforeMonth leap (month - 1) + 1)
  else (month, n - daysBeforeMonth leap month + 1)

/-- The date of a day: the cycles of 400, 100, 4 years and 1 year it lies in, and the rest. -/
def dateOf (n : Nat) : Date :=
  let n400 := n / 146097
  let n100 := n % 146097 / 36524
  let n4 := n % 146097 % 36524 / 1461
  let n1 := n % 146097 % 36524 % 1461 / 365
  let rest := n % 146097 % 36524 % 1461 % 365
  let year := 400 * n400 + 100 * n100 + 4 * n4 + n1 + 1
  -- the last day of a leap cycle
  if n1 = 4 ∨ n100 = 4 then ⟨year - 1, 12, 31⟩
  else
    let found := monthDay (n1 = 3 && (n4 ≠ 24 || n100 = 3)) rest
    ⟨year, found.1, found.2⟩

theorem monthDay_spec : ∀ leap : Bool, ∀ n < if leap then 366 else 365,
    1 ≤ (monthDay leap n).1 ∧ (monthDay leap n).1 ≤ 12 ∧ 1 ≤ (monthDay leap n).2 ∧
      (monthDay leap n).2 ≤ daysInMonth leap (monthDay leap n).1 ∧
      daysBeforeMonth leap (monthDay leap n).1 + ((monthDay leap n).2 - 1) = n := by
  decide +kernel

/-- The year of the cycles is a leap year when it ends one of 4 years, but not of 100 only. -/
theorem isLeap_cycles {a b c d : Nat} (hundred : b ≤ 3) (four : c ≤ 24) (one : d ≤ 3) :
    isLeap (400 * a + 100 * b + 4 * c + d + 1) = (d = 3 && (c ≠ 24 || b = 3)) := by
  unfold isLeap
  rw [Bool.eq_iff_iff]
  simp only [Bool.and_eq_true, Bool.or_eq_true, decide_eq_true_eq]
  omega

theorem daysBeforeYear_cycles {a b c d : Nat} (hundred : b ≤ 3) (four : c ≤ 24) (one : d ≤ 3) :
    daysBeforeYear (400 * a + 100 * b + 4 * c + d + 1) =
      146097 * a + 36524 * b + 1461 * c + 365 * d := by
  unfold daysBeforeYear
  omega

/-- The last day of a cycle of years that ends with a leap year. -/
theorem lastDay_spec {a b c : Nat} (hundred : b ≤ 3) (four : c ≤ 24) (leap : c ≠ 24 ∨ b = 3) :
    Date.Valid ⟨400 * a + 100 * b + 4 * c + 3 + 1, 12, 31⟩ ∧
      ordinal ⟨400 * a + 100 * b + 4 * c + 3 + 1, 12, 31⟩ =
        146097 * a + 36524 * b + 1461 * c + 1460 := by
  have isLeap : isLeap (400 * a + 100 * b + 4 * c + 3 + 1) = true := by
    rw [isLeap_cycles hundred four (by omega)]
    simpa using leap
  have positive : 1 ≤ 400 * a + 100 * b + 4 * c + 3 + 1 := by omega
  have month : 1 ≤ 12 ∧ 12 ≤ 12 ∧ 1 ≤ 31 ∧ 31 ≤ 31 := by decide
  refine ⟨⟨positive, month⟩, ?_⟩
  unfold ordinal
  rw [daysBeforeYear_cycles hundred four (by omega), isLeap]
  show 146097 * a + 36524 * b + 1461 * c + 365 * 3 + 335 + 30 = _
  omega

/-- The date of a day of a year. -/
theorem monthDay_date {year e : Nat} {leap : Bool} (positive : 1 ≤ year) (kind : isLeap year = leap)
    (within : e < if leap then 366 else 365) :
    Date.Valid ⟨year, (monthDay leap e).1, (monthDay leap e).2⟩ ∧
      ordinal ⟨year, (monthDay leap e).1, (monthDay leap e).2⟩ = daysBeforeYear year + e := by
  obtain ⟨month, later, day, last, sum⟩ := monthDay_spec leap e within
  subst kind
  refine ⟨⟨positive, month, later, day, last⟩, ?_⟩
  show daysBeforeYear year + daysBeforeMonth (isLeap year) (monthDay (isLeap year) e).1 +
    ((monthDay (isLeap year) e).2 - 1) = _
  omega

theorem dateOf_spec (n : Nat) : (dateOf n).Valid ∧ ordinal (dateOf n) = n := by
  unfold dateOf
  have sum : n = 146097 * (n / 146097) + 36524 * (n % 146097 / 36524) +
      1461 * (n % 146097 % 36524 / 1461) + 365 * (n % 146097 % 36524 % 1461 / 365) +
      n % 146097 % 36524 % 1461 % 365 := by omega
  have hundred : n % 146097 / 36524 ≤ 4 := by omega
  have four : n % 146097 % 36524 / 1461 ≤ 24 := by omega
  have one : n % 146097 % 36524 % 1461 / 365 ≤ 4 := by omega
  have rest : n % 146097 % 36524 % 1461 % 365 < 365 := Nat.mod_lt _ (by decide)
  have last400 : n % 146097 / 36524 = 4 → n % 146097 % 36524 / 1461 = 0 ∧
      n % 146097 % 36524 % 1461 / 365 = 0 ∧ n % 146097 % 36524 % 1461 % 365 = 0 := by omega
  have last4 : n % 146097 % 36524 % 1461 / 365 = 4 →
      n % 146097 % 36524 / 1461 ≠ 24 ∧ n % 146097 % 36524 % 1461 % 365 = 0 := by omega
  -- from here on only the cycles count
  generalize n / 146097 = a at *
  generalize n % 146097 / 36524 = b at *
  generalize n % 146097 % 36524 / 1461 = c at *
  generalize n % 146097 % 36524 % 1461 / 365 = d at *
  generalize n % 146097 % 36524 % 1461 % 365 = e at *
  dsimp only
  split
  · next closing =>
    rcases closing with year | century
    · by_cases b4 : b = 4
      · have := (last400 b4).2.1
        omega
      · have same : 400 * a + 100 * b + 4 * c + d + 1 - 1 = 400 * a + 100 * b + 4 * c + 3 + 1 := by
          omega
        obtain ⟨valid, days⟩ := lastDay_spec (a := a) (by omega : b ≤ 3) four (.inl (last4 year).1)
        rw [same]
        exact ⟨valid, by rw [days]; have := (last4 year).2; omega⟩
    · have same : 400 * a + 100 * b + 4 * c + d + 1 - 1 = 400 * a + 100 * 3 + 4 * 24 + 3 + 1 := by
        have := last400 century
        omega
      obtain ⟨valid, days⟩ := lastDay_spec (a := a) (le_refl 3) (le_refl 24) (.inr rfl)
      rw [same]
      exact ⟨valid, by rw [days]; have := last400 century; omega⟩
  · next inside =>
    have hundred : b ≤ 3 := by omega
    have one : d ≤ 3 := by omega
    have within : e < if (d = 3 && (c ≠ 24 || b = 3) : Bool) then 366 else 365 := by
      split <;> omega
    obtain ⟨valid, days⟩ := monthDay_date (by omega) (isLeap_cycles (a := a) hundred four one) within
    refine ⟨valid, days.trans ?_⟩
    rw [daysBeforeYear_cycles hundred four one]
    exact sum.symm

/-! ## Timestamps -/

def microsPerDay : Nat := 86400000000

/-- The first time after the year 9999. -/
def limit : Nat := 3652059 * microsPerDay

/-- A number in this many decimal digits. -/
def pad : Nat → Nat → List Nat
  | 0, _ => []
  | width + 1, n => (48 + n / 10 ^ width % 10) :: pad width n

/-- Reads this many decimal digits, after those that make up `front`. -/
def field : Nat → Nat → List Nat → Option (Nat × List Nat)
  | 0, front, rest => some (front, rest)
  | _ + 1, _, [] => none
  | width + 1, front, c :: rest =>
    if 48 ≤ c ∧ c ≤ 57 then field width (front * 10 + (c - 48)) rest else none

/-- What follows a code point. -/
def mark (c : Nat) : List Nat → Option (List Nat)
  | [] => none
  | first :: rest => if first = c then some rest else none

/-- A time in UTC as ISO 8601 spells it, with microseconds where there are any. -/
def render (t : Nat) : List Nat :=
  let date := dateOf (t / microsPerDay)
  let second := t % microsPerDay / 1000000
  let micro := t % 1000000
  pad 4 date.year ++ 45 :: (pad 2 date.month ++ 45 :: (pad 2 date.day ++
    84 :: (pad 2 (second / 3600) ++ 58 :: (pad 2 (second / 60 % 60) ++ 58 :: (pad 2 (second % 60) ++
      ((if micro = 0 then [] else 46 :: pad 6 micro) ++ [90]))))))

/-- The microseconds of a timestamp, where it has any. -/
def fraction (text : List Nat) : Option (Nat × List Nat) :=
  match mark 46 text with
  | some rest => field 6 0 rest
  | none => some (0, text)

def parse (text : List Nat) : Option Nat := do
  let (year, rest) ← field 4 0 text
  let rest ← mark 45 rest
  let (month, rest) ← field 2 0 rest
  let rest ← mark 45 rest
  let (day, rest) ← field 2 0 rest
  let rest ← mark 84 rest
  let (hour, rest) ← field 2 0 rest
  let rest ← mark 58 rest
  let (minute, rest) ← field 2 0 rest
  let rest ← mark 58 rest
  let (second, rest) ← field 2 0 rest
  let (micro, rest) ← fraction rest
  let rest ← mark 90 rest
  if rest = [] ∧ Date.Valid ⟨year, month, day⟩ ∧ hour < 24 ∧ minute < 60 ∧ second < 60 then
    some (ordinal ⟨year, month, day⟩ * microsPerDay +
      (hour * 3600 + minute * 60 + second) * 1000000 + micro)
  else none

theorem field_pad (width front n : Nat) (rest : List Nat) :
    field width front (pad width n ++ rest) = some (front * 10 ^ width + n % 10 ^ width, rest) := by
  induction width generalizing front with
  | zero =>
    rw [pad, List.nil_append, field, Nat.pow_zero, Nat.mul_one, Nat.mod_one, Nat.add_zero]
  | succ width ih =>
    have digit : n / 10 ^ width % 10 < 10 := Nat.mod_lt _ (by decide)
    rw [pad, List.cons_append, field, if_pos (by omega), Nat.add_sub_cancel_left, ih,
      Nat.pow_succ, Nat.mod_mul]
    congr 2
    rw [Nat.add_mul, Nat.mul_assoc, Nat.mul_comm 10, Nat.mul_comm (n / 10 ^ width % 10)]
    omega

theorem field_pad_lt {width n : Nat} (small : n < 10 ^ width) (rest : List Nat) :
    field width 0 (pad width n ++ rest) = some (n, rest) := by
  rw [field_pad, Nat.zero_mul, Nat.zero_add, Nat.mod_eq_of_lt small]

theorem mark_cons (c : Nat) (rest : List Nat) : mark c (c :: rest) = some rest := if_pos rfl

/-- A day before the year 10000 is in a year of four digits. -/
theorem dateOf_year {n : Nat} (within : n < 3652059) : (dateOf n).year < 10000 := by
  have days := (dateOf_spec n).2
  unfold ordinal daysBeforeYear at days
  by_contra late
  have year : (dateOf n).year - 1 = 9999 + ((dateOf n).year - 10000) := by omega
  rw [year] at days
  omega

theorem daysInMonth_le (leap : Bool) (month : Nat) : daysInMonth leap month ≤ 31 := by
  unfold daysInMonth
  split
  · cases leap <;> decide
  all_goals decide

/-- **A time is read back** from what it is spelled as. -/
theorem parse_render {t : Nat} (within : t < limit) : parse (render t) = some t := by
  have days : t / microsPerDay < 3652059 := Nat.div_lt_of_lt_mul (by
    rw [Nat.mul_comm]
    exact within)
  obtain ⟨valid, back⟩ := dateOf_spec (t / microsPerDay)
  have year := dateOf_year days
  have month : (dateOf (t / microsPerDay)).month < 10 ^ 2 := by
    have := valid.2.2.1
    omega
  have day : (dateOf (t / microsPerDay)).day < 10 ^ 2 := by
    have := valid.2.2.2.2
    have := daysInMonth_le (isLeap (dateOf (t / microsPerDay)).year)
      (dateOf (t / microsPerDay)).month
    omega
  have below : t % microsPerDay / 1000000 < 86400 :=
    Nat.div_lt_of_lt_mul (Nat.mod_lt _ (by decide))
  have micros : fraction ((if t % 1000000 = 0 then [] else 46 :: pad 6 (t % 1000000)) ++ [90]) =
      some (t % 1000000, [90]) := by
    have small : t % 1000000 < 10 ^ 6 := Nat.mod_lt _ (by decide)
    by_cases zero : t % 1000000 = 0
    · rw [if_pos zero, zero]
      rfl
    · rw [if_neg zero, List.cons_append, fraction, mark_cons]
      exact field_pad_lt small [90]
  unfold parse render
  simp only [Option.bind_eq_bind]
  rw [field_pad_lt year, Option.bind_some, mark_cons, Option.bind_some, field_pad_lt month,
    Option.bind_some, mark_cons, Option.bind_some, field_pad_lt day, Option.bind_some, mark_cons,
    Option.bind_some, field_pad_lt (by omega), Option.bind_some, mark_cons, Option.bind_some,
    field_pad_lt (by omega), Option.bind_some, mark_cons, Option.bind_some,
    field_pad_lt (by omega), Option.bind_some, micros, Option.bind_some, mark_cons,
    Option.bind_some, if_pos ⟨rfl, valid, by omega, by omega, by omega⟩]
  congr 1
  show ordinal (dateOf (t / microsPerDay)) * microsPerDay + _ + _ = t
  rw [back]
  unfold microsPerDay
  omega

theorem pad_ascii (width n : Nat) : ∀ c ∈ pad width n, 32 ≤ c ∧ c < 128 := by
  induction width with
  | zero => exact fun c mem => nomatch mem
  | succ width ih =>
    refine List.forall_mem_cons.mpr ⟨?_, ih⟩
    have := Nat.mod_lt (n / 10 ^ width) (show 0 < 10 by decide)
    omega

/-- A timestamp is visible ASCII. -/
theorem render_ascii (t : Nat) : ∀ c ∈ render t, 32 ≤ c ∧ c < 128 := by
  have micros : ∀ c ∈ (if t % 1000000 = 0 then [] else 46 :: pad 6 (t % 1000000)),
      32 ≤ c ∧ c < 128 := by
    split
    · exact fun c mem => nomatch mem
    · exact List.forall_mem_cons.mpr ⟨by decide, pad_ascii 6 _⟩
  simp only [render, List.forall_mem_append, List.forall_mem_cons]
  exact ⟨pad_ascii 4 _, by decide, pad_ascii 2 _, by decide, pad_ascii 2 _, by decide,
    pad_ascii 2 _, by decide, pad_ascii 2 _, by decide, pad_ascii 2 _, micros, by decide,
    fun c mem => nomatch mem⟩

theorem render_getLast (t : Nat) : (render t).getLast? = some 90 := by
  simp only [render, ← List.append_assoc, ← List.cons_append]
  exact List.getLast?_concat

end Lib.Calendar
