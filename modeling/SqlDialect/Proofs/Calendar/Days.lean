import Mathlib.Order.Monotone.Basic
import SqlDialect.Calendar.Timestamp

/-!
# Day numbers

The days of the calendar are numbered without gaps: the number of a date lies behind the
days of the years before its own and within those of its own, a date is known by its
number, and the dates beside it have the numbers beside its own.  So a shift by days is an
addition to the number, and succeeds exactly within the calendar.
-/

namespace SqlDialect

namespace Date

/-! ## Years and months -/

/-- The days before the next month are those before a month and its own. -/
theorem daysBeforeMonth_succ {month : Nat} (year : Int) (h : 1 ≤ month) :
  daysBeforeMonth year (month + 1) = daysBeforeMonth year month + monthLength year month
  := by
  obtain ⟨m, rfl⟩ := Nat.exists_eq_add_of_le' h
  rfl

/-- The days before a month grow with the month. -/
theorem daysBeforeMonth_mono (year : Int) :
  Monotone (daysBeforeMonth year)
  := by
  apply monotone_nat_of_le_succ
  intro month
  cases month with
  | zero => exact Nat.le_refl 0
  | succ m => exact Nat.le_add_right _ _

/-- All the months of a year. -/
theorem daysBeforeMonth_end (year : Int) :
  daysBeforeMonth year 13 = if isLeapYear year then 366 else 365
  := by
  cases h : isLeapYear year <;> simp [daysBeforeMonth, monthLength, h]

/-- The days before the next year are those before a year and its own. -/
theorem daysBeforeYear_succ (year : Int) :
  daysBeforeYear (year + 1) = daysBeforeYear year + daysBeforeMonth year 13
  := by
  rw [daysBeforeMonth_end, daysBeforeYear, daysBeforeYear]
  split
  next h =>
    simp only [isLeapYear, Bool.and_eq_true, Bool.or_eq_true, decide_eq_true_eq] at h
    omega
  next h =>
    simp only [isLeapYear, Bool.and_eq_true, Bool.or_eq_true, decide_eq_true_eq] at h
    omega

/-- The days before a year grow with the year, and tell years apart. -/
theorem daysBeforeYear_lt_iff {year year' : Int} :
  daysBeforeYear year < daysBeforeYear year' ↔ year < year'
  := by
  have hstep : ∀ y, daysBeforeYear y < daysBeforeYear (y + 1) := by
    intro y
    rw [daysBeforeYear_succ, daysBeforeMonth_end]
    split <;> omega
  exact (strictMono_int_of_lt_succ hstep).lt_iff_lt

/-- No year has fewer days before it than an earlier one. -/
theorem daysBeforeYear_le {year year' : Int} (h : year ≤ year') :
  daysBeforeYear year ≤ daysBeforeYear year'
  := by
  rw [← Int.not_lt, daysBeforeYear_lt_iff]
  exact Int.not_lt.mpr h

/-- Every month has a day. -/
theorem one_le_monthLength (year : Int) (month : Nat) :
  1 ≤ monthLength year month
  := by
  rw [monthLength]
  split
  · split <;> decide
  · split <;> decide

/-- No month has more than thirty-one days. -/
theorem monthLength_le (year : Int) (month : Nat) :
  monthLength year month ≤ 31
  := by
  rw [monthLength]
  split
  · split <;> decide
  · split <;> decide

/-! ## Numbers of days -/

/-- A date is made of its own year, month and day, and of no others. -/
theorem ofParts?_eq_some_iff {year : Int} {month day : Nat} {d : Date} :
  ofParts? year month day = some d ↔ d.year = year ∧ d.month = month ∧ d.day = day
  := by
  rw [ofParts?]
  constructor
  · intro h
    split at h
    · obtain rfl := Option.some.inj h
      exact ⟨rfl, rfl, rfl⟩
    · cases h
  · rintro ⟨rfl, rfl, rfl⟩
    rw [dif_pos ⟨⟨d.year_ge, d.year_le⟩, ⟨d.month_ge, d.month_le⟩, d.day_ge, d.day_le⟩]

/-- The day number of a date that is made of its parts. -/
theorem dayNumber_ofParts? {year : Int} {month day : Nat} {d : Date}
    (h : ofParts? year month day = some d) :
  d.dayNumber = daysBeforeYear year + daysBeforeMonth year month + day
  := by
  obtain ⟨rfl, rfl, rfl⟩ := ofParts?_eq_some_iff.mp h
  rfl

section Bounds

variable (d : Date)

/-- A date stands behind the months before its own. -/
theorem month_lt_dayNumber :
  daysBeforeYear d.year + daysBeforeMonth d.year d.month < d.dayNumber
  := by
  have hday := d.day_ge
  rw [dayNumber]
  omega

/-- A date stands within its month. -/
theorem dayNumber_le_month :
  d.dayNumber ≤ daysBeforeYear d.year + daysBeforeMonth d.year (d.month + 1)
  := by
  have hmonth := daysBeforeMonth_succ d.year d.month_ge
  have hday := d.day_le
  rw [dayNumber]
  omega

/-- A date has a greater day number than all days before its year. -/
theorem year_lt_dayNumber :
  daysBeforeYear d.year < d.dayNumber
  := by
  have hmonth := d.month_lt_dayNumber
  omega

/-- A date has no greater day number than the last day of its year. -/
theorem dayNumber_le_year :
  d.dayNumber ≤ daysBeforeYear (d.year + 1)
  := by
  have hmonth : daysBeforeMonth d.year (d.month + 1) ≤ daysBeforeMonth d.year 13 :=
    daysBeforeMonth_mono d.year (Nat.succ_le_succ d.month_le)
  have hday := d.dayNumber_le_month
  rw [daysBeforeYear_succ]
  omega

/-- A date has a greater day number than all days before the calendar. -/
theorem begin_lt_dayNumber :
  daysBeforeYear (-9999) < d.dayNumber
  := Int.lt_of_le_of_lt (daysBeforeYear_le d.year_ge) d.year_lt_dayNumber

/-- A date has no greater day number than the last day of the calendar. -/
theorem dayNumber_le_end :
  d.dayNumber ≤ daysBeforeYear 10000
  := Int.le_trans d.dayNumber_le_year (daysBeforeYear_le (Int.add_le_add_right d.year_le 1))

end Bounds

variable {d e : Date}

/-- A date in an earlier year has a smaller day number. -/
theorem dayNumber_lt_of_year_lt (h : d.year < e.year) :
  d.dayNumber < e.dayNumber
  := by
  have hyears : daysBeforeYear (d.year + 1) ≤ daysBeforeYear e.year :=
    daysBeforeYear_le h
  have hd := d.dayNumber_le_year
  have he := e.year_lt_dayNumber
  omega

/-- A date in an earlier month of the same year has a smaller day number. -/
theorem dayNumber_lt_of_month_lt (hyear : d.year = e.year) (h : d.month < e.month) :
  d.dayNumber < e.dayNumber
  := by
  have hmonths : daysBeforeMonth e.year (d.month + 1) ≤ daysBeforeMonth e.year e.month :=
    daysBeforeMonth_mono e.year h
  have hd := d.dayNumber_le_month
  have he := e.month_lt_dayNumber
  rw [hyear] at hd
  omega

/-- A date is known by the number of its day. -/
theorem dayNumber_inj :
  d.dayNumber = e.dayNumber ↔ d = e
  := by
  constructor
  · intro h
    obtain hyear | hyear | hyear := Int.lt_trichotomy d.year e.year
    · cases Int.ne_of_lt (dayNumber_lt_of_year_lt hyear) h
    · obtain hmonth | hmonth | hmonth := Nat.lt_trichotomy d.month e.month
      · cases Int.ne_of_lt (dayNumber_lt_of_month_lt hyear hmonth) h
      · have hday : d.day = e.day := by
          rw [dayNumber, dayNumber, hyear, hmonth] at h
          omega
        have hparts := ofParts?_eq_some_iff.mpr ⟨hyear, hmonth, hday⟩
        rw [ofParts?_eq_some_iff.mpr ⟨rfl, rfl, rfl⟩] at hparts
        exact (Option.some.inj hparts).symm
      · cases Int.ne_of_gt (dayNumber_lt_of_month_lt hyear.symm hmonth) h
    · cases Int.ne_of_gt (dayNumber_lt_of_year_lt hyear) h
  · rintro rfl
    rfl

/-! ## The dates beside a date -/

/-- The last day of a month has as its number the days before the next month. -/
theorem dayNumber_of_month_end (h : ¬ d.day < monthLength d.year d.month) :
  d.dayNumber = daysBeforeYear d.year + daysBeforeMonth d.year (d.month + 1)
  := by
  have hday := d.day_le
  have hmonth := daysBeforeMonth_succ d.year d.month_ge
  rw [dayNumber]
  omega

/-- The last day of a year has as its number the days before the next year. -/
theorem dayNumber_of_year_end (hday : ¬ d.day < monthLength d.year d.month)
    (hmonth : ¬ d.month < 12) :
  d.dayNumber = daysBeforeYear (d.year + 1)
  := by
  have hdecember : d.month = 12 := Nat.le_antisymm d.month_le (Nat.le_of_not_lt hmonth)
  rw [dayNumber_of_month_end hday, hdecember, daysBeforeYear_succ]

/-- The next date has the next day number. -/
theorem dayNumber_next? (h : d.next? = some e) :
  e.dayNumber = d.dayNumber + 1
  := by
  rw [next?] at h
  split at h
  · rw [dayNumber_ofParts? h, dayNumber]
    omega
  next hday =>
    split at h
    · rw [dayNumber_ofParts? h, dayNumber_of_month_end hday]
      omega
    next hmonth =>
      rw [dayNumber_ofParts? h, dayNumber_of_year_end hday hmonth]
      exact congrArg (· + 1) (Int.add_zero _)

/-- There is a day after, unless the calendar ends. -/
theorem exists_next? (h : d.dayNumber < daysBeforeYear 10000) :
  ∃ e, d.next? = some e
  := by
  have hyear := d.year_ge
  rw [next?]
  split
  next hday =>
    exact ⟨⟨d.year, d.month, d.day + 1, hyear, d.year_le, d.month_ge, d.month_le,
      Nat.le_add_left 1 _, hday⟩, ofParts?_eq_some_iff.mpr ⟨rfl, rfl, rfl⟩⟩
  next hday =>
    split
    next hmonth =>
      exact ⟨⟨d.year, d.month + 1, 1, hyear, d.year_le, Nat.le_add_left 1 _, hmonth,
        Nat.le_refl 1, one_le_monthLength _ _⟩, ofParts?_eq_some_iff.mpr ⟨rfl, rfl, rfl⟩⟩
    next hmonth =>
      rw [dayNumber_of_year_end hday hmonth] at h
      have hnext : d.year + 1 < 10000 := daysBeforeYear_lt_iff.mp h
      exact ⟨⟨d.year + 1, 1, 1, by omega, by omega, Nat.le_refl 1, by decide, Nat.le_refl 1,
        one_le_monthLength _ _⟩, ofParts?_eq_some_iff.mpr ⟨rfl, rfl, rfl⟩⟩

/-- The first day of a month comes right behind the days before the month. -/
theorem dayNumber_of_month_begin (h : ¬ 1 < d.day) :
  d.dayNumber = daysBeforeYear d.year + daysBeforeMonth d.year d.month + 1
  := by
  have hday := d.day_ge
  rw [dayNumber]
  omega

/-- The first day of a year comes right behind the days before the year. -/
theorem dayNumber_of_year_begin (hday : ¬ 1 < d.day) (hmonth : ¬ 1 < d.month) :
  d.dayNumber = daysBeforeYear d.year + 1
  := by
  have hjanuary : d.month = 1 := Nat.le_antisymm (Nat.le_of_not_lt hmonth) d.month_ge
  rw [dayNumber_of_month_begin hday, hjanuary]
  exact congrArg (· + 1) (Int.add_zero _)

/-- The previous date has the previous day number. -/
theorem dayNumber_previous? (h : d.previous? = some e) :
  e.dayNumber + 1 = d.dayNumber
  := by
  rw [previous?] at h
  split at h
  · rw [dayNumber_ofParts? h, dayNumber]
    omega
  next hday =>
    split at h
    next hmonth =>
      have hmonths := daysBeforeMonth_succ d.year (Nat.le_sub_one_of_lt hmonth)
      rw [Nat.sub_add_cancel d.month_ge] at hmonths
      rw [dayNumber_ofParts? h, dayNumber_of_month_begin hday]
      omega
    next hmonth =>
      have hyears := daysBeforeYear_succ (d.year - 1)
      rw [Int.sub_add_cancel, daysBeforeMonth_succ _ (by decide)] at hyears
      rw [dayNumber_ofParts? h, dayNumber_of_year_begin hday hmonth, hyears]
      change _ = _ + ((_ + 31 : Nat) : Int) + 1
      omega

/-- There is a day before, unless the calendar begins. -/
theorem exists_previous? (h : daysBeforeYear (-9999) + 1 < d.dayNumber) :
  ∃ e, d.previous? = some e
  := by
  have hyear := d.year_le
  have hlast := d.day_le
  have hmonths := d.month_le
  rw [previous?]
  split
  next hday =>
    exact ⟨⟨d.year, d.month, d.day - 1, d.year_ge, hyear, d.month_ge, hmonths, by omega, by omega⟩,
      ofParts?_eq_some_iff.mpr ⟨rfl, rfl, rfl⟩⟩
  next hday =>
    split
    next hmonth =>
      exact ⟨⟨d.year, d.month - 1, monthLength d.year (d.month - 1), d.year_ge, hyear, by omega,
        by omega, one_le_monthLength _ _, Nat.le_refl _⟩,
        ofParts?_eq_some_iff.mpr ⟨rfl, rfl, rfl⟩⟩
    next hmonth =>
      rw [dayNumber_of_year_begin hday hmonth] at h
      have hprevious : -9999 < d.year :=
        daysBeforeYear_lt_iff.mp (Int.lt_of_add_lt_add_right h)
      exact ⟨⟨d.year - 1, 12, 31, by omega, by omega, by decide, by decide, by decide,
        Nat.le_refl 31⟩, ofParts?_eq_some_iff.mpr ⟨rfl, rfl, rfl⟩⟩

/-! ## Shifts -/

/-- A date some days later has a day number that is greater by them. -/
theorem dayNumber_later? {n : Nat} (h : d.later? n = some e) :
  e.dayNumber = d.dayNumber + n
  := by
  induction n generalizing d with
  | zero =>
    obtain rfl := Option.some.inj h
    exact (Int.add_zero _).symm
  | succ n ih =>
    obtain ⟨next, hnext, hlater⟩ := Option.bind_eq_some_iff.mp h
    rw [ih hlater, dayNumber_next? hnext]
    omega

/-- There is a date some days later when its number is not beyond the end of the calendar. -/
theorem exists_later? {n : Nat} (h : d.dayNumber + n ≤ daysBeforeYear 10000) :
  ∃ e, d.later? n = some e
  := by
  induction n generalizing d with
  | zero => exact ⟨d, rfl⟩
  | succ n ih =>
    obtain ⟨next, hnext⟩ : ∃ next, d.next? = some next := exists_next? (by omega)
    have hnumber := dayNumber_next? hnext
    obtain ⟨e, he⟩ : ∃ e, next.later? n = some e := ih (by omega)
    exact ⟨e, Option.bind_eq_some_iff.mpr ⟨next, hnext, he⟩⟩

/-- A date some days earlier has a day number that is smaller by them. -/
theorem dayNumber_earlier? {n : Nat} (h : d.earlier? n = some e) :
  e.dayNumber + n = d.dayNumber
  := by
  induction n generalizing d with
  | zero =>
    obtain rfl := Option.some.inj h
    exact Int.add_zero _
  | succ n ih =>
    obtain ⟨previous, hprevious, hearlier⟩ := Option.bind_eq_some_iff.mp h
    rw [← dayNumber_previous? hprevious, ← ih hearlier]
    omega

/-- There is a date some days earlier when its number is not before the begin of the calendar. -/
theorem exists_earlier? {n : Nat} (h : daysBeforeYear (-9999) + n < d.dayNumber) :
  ∃ e, d.earlier? n = some e
  := by
  induction n generalizing d with
  | zero => exact ⟨d, rfl⟩
  | succ n ih =>
    obtain ⟨previous, hprevious⟩ : ∃ previous, d.previous? = some previous :=
      exists_previous? (by omega)
    have hnumber := dayNumber_previous? hprevious
    obtain ⟨e, he⟩ : ∃ e, previous.earlier? n = some e := ih (by omega)
    exact ⟨e, Option.bind_eq_some_iff.mpr ⟨previous, hprevious, he⟩⟩

/-- A shift adds to the number of the day. -/
theorem dayNumber_shift? {n : Int} (h : d.shift? n = some e) :
  e.dayNumber = d.dayNumber + n
  := by
  rw [shift?] at h
  split at h
  · rw [dayNumber_later? h]
    omega
  · rw [← dayNumber_earlier? h]
    omega

/-- A shift succeeds within the calendar. -/
theorem exists_shift? {n : Int} (hbegin : daysBeforeYear (-9999) < d.dayNumber + n)
    (hend : d.dayNumber + n ≤ daysBeforeYear 10000) :
  ∃ e, d.shift? n = some e
  := by
  rw [shift?]
  split
  · apply exists_later?
    omega
  · apply exists_earlier?
    omega

/-- The shifted date is the one with the sum as its number. -/
theorem shift?_eq_some_iff {n : Int} :
  d.shift? n = some e ↔ e.dayNumber = d.dayNumber + n
  := by
  constructor
  · apply dayNumber_shift?
  · intro h
    obtain ⟨f, hf⟩ : ∃ f, d.shift? n = some f :=
      exists_shift? (h ▸ e.begin_lt_dayNumber) (h ▸ e.dayNumber_le_end)
    rw [hf, dayNumber_inj.mp (h.trans (dayNumber_shift? hf).symm)]

end Date

end SqlDialect
