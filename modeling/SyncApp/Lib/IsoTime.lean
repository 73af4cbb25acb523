import SyncApp.Lib.Calendar

/-!
# ISO texts of times in UTC, and their order

`isoformat` spells a time in UTC with its offset, and leaves the fraction out where it is zero, so
texts of two widths are compared. Their order is still that of the times (`isoformat_lt_iff`): the
fields before the fraction have fixed widths, and the sign of the offset is below the point of the
fraction.
-/

set_option autoImplicit false

namespace Lib.Calendar

/-- A time in UTC, up to its seconds. -/
def clockText (t : Nat) (rest : List Nat) : List Nat :=
  let date := dateOf (t / microsPerDay)
  let second := t % microsPerDay / 1000000
  pad 4 date.year ++ 45 :: (pad 2 date.month ++ 45 :: (pad 2 date.day ++
    84 :: (pad 2 (second / 3600) ++ 58 :: (pad 2 (second / 60 % 60) ++ 58 :: (pad 2 (second % 60) ++
      rest)))))

/-- What stands after the seconds: microseconds where there are any, and the offset. -/
def fractionText (micro : Nat) : List Nat :=
  (if micro = 0 then [] else 46 :: pad 6 micro) ++ [43, 48, 48, 58, 48, 48]

/-- `isoformat` of a time in UTC. -/
def isoformat (t : Nat) : List Nat := clockText t (fractionText (t % 1000000))

def utcOffset : List Nat := [43, 48, 48, 58, 48, 48]

/-- The time of a text, where it is one that `isoformat` writes for a time in UTC. -/
def parseIsoformat (text : List Nat) : Option Nat :=
  let front := text.take (text.length - 6)
  if text = front ++ utcOffset then parse (front ++ [90]) else none

theorem isoformat_eq (t : Nat) :
    ∃ front, isoformat t = front ++ utcOffset ∧ render t = front ++ [90] := by
  refine ⟨clockText t (if t % 1000000 = 0 then [] else 46 :: pad 6 (t % 1000000)), ?_, ?_⟩
  · simp only [isoformat, clockText, fractionText, utcOffset, List.append_assoc, List.cons_append]
  · simp only [render, clockText, List.append_assoc, List.cons_append]

theorem isoformat_ascii (t : Nat) : ∀ c ∈ isoformat t, c < 128 := by
  obtain ⟨front, text, zulu⟩ := isoformat_eq t
  have visible := render_ascii t
  rw [zulu] at visible
  rw [text]
  exact List.forall_mem_append.mpr
    ⟨fun c mem => (visible c (List.mem_append_left _ mem)).2, by decide⟩

/-- **A time is read back** from its text. -/
theorem parseIsoformat_isoformat {t : Nat} (within : t < limit) :
    parseIsoformat (isoformat t) = some t := by
  obtain ⟨front, text, zulu⟩ := isoformat_eq t
  have taken : (front ++ utcOffset).take ((front ++ utcOffset).length - 6) = front := by
    rw [List.length_append, show utcOffset.length = 6 from rfl, Nat.add_sub_cancel,
      List.take_left]
  unfold parseIsoformat
  rw [text, taken, if_pos rfl, ← zulu, parse_render within]

/-! ## The order of fields -/

/-- A field comes before another, or they are the same and what follows decides. -/
theorem pad_mod_append_lt {width m n : Nat} {rest rest' : List Nat}
    (before : m % 10 ^ width < n % 10 ^ width ∨ m % 10 ^ width = n % 10 ^ width ∧ rest < rest') :
    pad width m ++ rest < pad width n ++ rest' := by
  induction width with
  | zero =>
    rw [Nat.pow_zero, Nat.mod_one, Nat.mod_one] at before
    exact (before.resolve_left (Nat.lt_irrefl 0)).2
  | succ width ih =>
    rw [Nat.pow_succ, Nat.mod_mul, Nat.mod_mul] at before
    rw [pad, pad, List.cons_append, List.cons_append, List.cons_lt_cons_iff]
    have first := Nat.mod_lt m (Nat.pow_pos (show 0 < 10 by decide) : 0 < 10 ^ width)
    have second := Nat.mod_lt n (Nat.pow_pos (show 0 < 10 by decide) : 0 < 10 ^ width)
    rcases Nat.lt_trichotomy (m / 10 ^ width % 10) (n / 10 ^ width % 10) with less | same | more
    · exact .inl (by omega)
    · rw [same] at before
      refine .inr ⟨by rw [same], ih (before.imp (by omega) fun both => ⟨?_, both.2⟩)⟩
      have equal := both.1
      omega
    · -- a greater digit makes the whole field greater
      have := Nat.mul_le_mul_left (10 ^ width) (Nat.succ_le_of_lt more)
      rw [Nat.mul_succ] at this
      omega

theorem pad_append_lt {width m n : Nat} (small : n < 10 ^ width) {rest rest' : List Nat}
    (before : m < n ∨ m = n ∧ rest < rest') : pad width m ++ rest < pad width n ++ rest' := by
  refine pad_mod_append_lt (before.imp (fun less => ?_) fun ⟨same, later⟩ => ⟨by rw [same], later⟩)
  rw [Nat.mod_eq_of_lt small, Nat.mod_eq_of_lt (Nat.lt_trans less small)]
  exact less

theorem mark_lt {c : Nat} {rest rest' : List Nat} (later : rest < rest') : c :: rest < c :: rest' :=
  List.cons_lt_cons_iff.mpr (.inr ⟨rfl, later⟩)

/-- No fraction comes before any. -/
theorem fractionText_lt {micro micro' : Nat} (less : micro < micro') (small : micro' < 1000000) :
    fractionText micro < fractionText micro' := by
  unfold fractionText
  rw [if_neg (show ¬micro' = 0 by omega)]
  split
  · exact List.cons_lt_cons_iff.mpr (.inl (by decide))
  · exact mark_lt (pad_append_lt small (.inl less))

/-! ## The order of dates -/

/-- The date is an earlier one, field by field. -/
def Date.Before (date other : Date) : Prop :=
  date.year < other.year ∨ date.year = other.year ∧
    (date.month < other.month ∨ date.month = other.month ∧ date.day < other.day)

theorem daysBeforeMonth_next : ∀ leap : Bool, ∀ month < 13, ∀ later < 13, 1 ≤ month →
    month < later → daysBeforeMonth leap month + daysInMonth leap month ≤
      daysBeforeMonth leap later := by
  decide

theorem daysBeforeMonth_year : ∀ leap : Bool, ∀ month < 13, 1 ≤ month →
    daysBeforeMonth leap month + daysInMonth leap month ≤ if leap then 366 else 365 := by
  decide

theorem isLeap_iff (year : Nat) :
    isLeap year = true ↔ year % 4 = 0 ∧ (year % 100 ≠ 0 ∨ year % 400 = 0) := by
  unfold isLeap
  simp only [Bool.and_eq_true, Bool.or_eq_true, decide_eq_true_eq]

theorem daysBeforeYear_next {year : Nat} (positive : 1 ≤ year) :
    daysBeforeYear (year + 1) = daysBeforeYear year + if isLeap year then 366 else 365 := by
  have step (n : Nat) (some : 0 < n) :
      year / n = (year - 1) / n + if year % n = 0 then 1 else 0 := by
    obtain ⟨before, rfl⟩ : ∃ before, year = before + 1 := ⟨year - 1, by omega⟩
    rw [Nat.succ_div, Nat.add_sub_cancel]
    simp only [Nat.dvd_iff_mod_eq_zero]
  have leap := isLeap_iff year
  unfold daysBeforeYear
  rw [Nat.add_sub_cancel, step 4 (by decide), step 100 (by decide), step 400 (by decide)]
  have hundreds : (year - 1) / 100 ≤ (year - 1) / 4 := Nat.div_le_div_left (by decide) (by decide)
  generalize (year - 1) / 4 = fours at *
  generalize (year - 1) / 100 = hundreds at *
  by_cases kind : isLeap year = true
  · rw [if_pos kind]
    obtain ⟨four, rest⟩ := leap.mp kind
    rw [if_pos four]
    split <;> split <;> omega
  · rw [if_neg kind]
    have common := mt leap.mpr kind
    split <;> split <;> split <;> omega

theorem daysBeforeYear_mono {year later : Nat} (before : year ≤ later) :
    daysBeforeYear year ≤ daysBeforeYear later := by
  rcases Nat.lt_or_eq_of_le before with less | rfl
  · unfold daysBeforeYear
    omega
  · exact Nat.le_refl _

theorem ordinal_lt {date other : Date} (valid : date.Valid) (valid' : other.Valid)
    (before : date.Before other) : ordinal date < ordinal other := by
  obtain ⟨year, month, last, day, within⟩ := valid
  obtain ⟨-, month', last', day', -⟩ := valid'
  unfold ordinal
  rcases before with year' | ⟨same, month'' | ⟨alike, day''⟩⟩
  · have whole := daysBeforeMonth_year (isLeap date.year) date.month (by omega) month
    have next := daysBeforeYear_next year
    have later := daysBeforeYear_mono (show date.year + 1 ≤ other.year from year')
    omega
  · have := daysBeforeMonth_next (isLeap date.year) date.month (by omega) other.month (by omega)
      month month''
    rw [← same]
    omega
  · rw [← same, ← alike]
    omega

theorem dateOf_before {m n : Nat} (less : m < n) : (dateOf m).Before (dateOf n) := by
  obtain ⟨valid, back⟩ := dateOf_spec m
  obtain ⟨valid', back'⟩ := dateOf_spec n
  by_contra after
  have order : (dateOf n).Before (dateOf m) ∨ dateOf n = dateOf m := by
    unfold Date.Before at after ⊢
    rcases Nat.lt_trichotomy (dateOf m).year (dateOf n).year with _ | year | _
    · omega
    · rcases Nat.lt_trichotomy (dateOf m).month (dateOf n).month with _ | month | _
      · omega
      · rcases Nat.lt_trichotomy (dateOf m).day (dateOf n).day with _ | day | _
        · omega
        · right
          cases first : dateOf m
          cases second : dateOf n
          rw [first, second] at year month day
          rw [Date.mk.injEq]
          exact ⟨year.symm, month.symm, day.symm⟩
        · omega
      · omega
    · omega
  rcases order with before | same
  · have := ordinal_lt valid' valid before
    omega
  · rw [same, back] at back'
    omega

/-! ## The order of times -/

/-- **A later time has a later text.** -/
theorem isoformat_lt {t u : Nat} (within : u < limit) (less : t < u) : isoformat t < isoformat u := by
  have days : u / microsPerDay < 3652059 := Nat.div_lt_of_lt_mul (by
    rw [Nat.mul_comm]
    exact within)
  obtain ⟨⟨-, -, month, -, day⟩, -⟩ := dateOf_spec (u / microsPerDay)
  have monthDays := daysInMonth_le (isLeap (dateOf (u / microsPerDay)).year)
    (dateOf (u / microsPerDay)).month
  have below : u % microsPerDay / 1000000 < 86400 :=
    Nat.div_lt_of_lt_mul (Nat.mod_lt _ (by decide))
  have year := dateOf_year days
  have order : t / microsPerDay ≤ u / microsPerDay := Nat.div_le_div_right (Nat.le_of_lt less)
  unfold isoformat clockText
  dsimp only
  rcases Nat.lt_or_eq_of_le order with earlier | same
  · rcases dateOf_before earlier with years | ⟨years, months | ⟨months, early⟩⟩
    · exact pad_append_lt year (.inl years)
    · exact pad_append_lt year (.inr ⟨years, mark_lt (pad_append_lt (by omega) (.inl months))⟩)
    · exact pad_append_lt year (.inr ⟨years, mark_lt (pad_append_lt (by omega) (.inr ⟨months,
        mark_lt (pad_append_lt (by omega) (.inl early))⟩))⟩)
  · rw [same]
    refine pad_append_lt year (.inr ⟨rfl, mark_lt (pad_append_lt (by omega) (.inr ⟨rfl,
      mark_lt (pad_append_lt (by omega) (.inr ⟨rfl, mark_lt ?_⟩))⟩))⟩)
    have inDay : t % microsPerDay < u % microsPerDay := by
      unfold microsPerDay at same ⊢
      omega
    have micros : t % microsPerDay / 1000000 < u % microsPerDay / 1000000 ∨
        t % microsPerDay / 1000000 = u % microsPerDay / 1000000 ∧
          t % 1000000 < u % 1000000 := by
      unfold microsPerDay at inDay ⊢
      omega
    generalize t % microsPerDay / 1000000 = second at *
    generalize u % microsPerDay / 1000000 = second' at *
    rcases micros with clock | ⟨rfl, micro⟩
    · rcases Nat.lt_or_eq_of_le (Nat.div_le_div_right (Nat.le_of_lt clock) :
        second / 3600 ≤ second' / 3600) with hours | hours
      · exact pad_append_lt (by omega) (.inl hours)
      · refine pad_append_lt (by omega) (.inr ⟨hours, mark_lt ?_⟩)
        rcases Nat.lt_or_ge (second / 60 % 60) (second' / 60 % 60) with minutes | minutes
        · exact pad_append_lt (by omega) (.inl minutes)
        · exact pad_append_lt (by omega) (.inr ⟨by omega, mark_lt
            (pad_append_lt (by omega) (.inl (by omega)))⟩)
    · exact pad_append_lt (by omega) (.inr ⟨rfl, mark_lt (pad_append_lt (by omega) (.inr ⟨rfl,
        mark_lt (pad_append_lt (by omega) (.inr ⟨rfl,
          fractionText_lt micro (Nat.mod_lt _ (by decide))⟩))⟩))⟩)

/-- **The order of the texts is that of the times.** -/
theorem isoformat_lt_iff {t u : Nat} (first : t < limit) (second : u < limit) :
    isoformat t < isoformat u ↔ t < u := by
  refine ⟨fun less => ?_, isoformat_lt second⟩
  by_contra after
  rcases Nat.lt_or_eq_of_le (Nat.not_lt.mp after) with before | rfl
  · exact List.lt_irrefl _ (List.lt_trans less (isoformat_lt first before))
  · exact List.lt_irrefl _ less

end Lib.Calendar
