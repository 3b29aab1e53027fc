import SqlDialect.Calendar.Timestamp
import SqlDialect.Proofs.Calendar.Days

/-!
# Instants

The timestamp of a moment in UTC is the one that denotes its instant, and there is one
exactly when the instant lies within the calendar.
-/

namespace SqlDialect

/-! ## Times of day -/

namespace Clock

theorem secondOfDay_lt (c : Clock) :
  c.secondOfDay < 86400
  := by
  rw [secondOfDay]
  omega

theorem secondOfDay_ofSecond {seconds : Nat} (nanosecond : Fin 1000000000)
    (h : seconds < 86400) :
  (ofSecond seconds nanosecond).secondOfDay = seconds
  := by
  simp only [secondOfDay, ofSecond]
  omega

theorem ofSecond_secondOfDay (c : Clock) :
  ofSecond c.secondOfDay c.nanosecond = c
  := by
  have hhour : c.secondOfDay / 3600 % 24 = c.hour.val := by
    rw [secondOfDay]
    omega
  have hminute : c.secondOfDay / 60 % 60 = c.minute.val := by
    rw [secondOfDay]
    omega
  have hsecond : c.secondOfDay % 60 = c.second.val := by
    rw [secondOfDay]
    omega
  simp only [ofSecond, hhour, hminute, hsecond]

end Clock

/-! ## Timestamps in UTC -/

/-- The moment that the timestamp denotes in UTC. -/
def Timestamp.atUtc (t : Timestamp) : Moment := ⟨t, 0, by decide, by decide⟩

theorem Timestamp.instant_atUtc (t : Timestamp) :
  t.atUtc.instant = (86400 * t.date.dayNumber + t.clock.secondOfDay, t.clock.nanosecond.val)
  := by
  rw [Moment.instant, Moment.utcSeconds]
  exact congrArg (86400 * t.date.dayNumber + ·, t.clock.nanosecond.val) (Int.sub_zero _)

namespace Moment

/-- The instant lies on a day of the calendar: behind the days of the years before -9999, and not
behind those of the years before 10000. -/
def InCalendar (m : Moment) : Prop :=
  Date.daysBeforeYear (-9999) < m.instant.1 / 86400
    ∧ m.instant.1 / 86400 ≤ Date.daysBeforeYear 10000

variable {m : Moment} {t : Timestamp}

/-- The timestamp in UTC is the one that denotes the instant. -/
theorem utc?_eq_some_iff :
  m.utc? = some t ↔ t.atUtc.instant = m.instant
  := by
  have hseconds : ((m.utcSeconds % 86400).toNat : Int) = m.utcSeconds % 86400 :=
    Int.toNat_of_nonneg (Int.emod_nonneg _ (by decide))
  have hlt := t.clock.secondOfDay_lt
  rw [utc?, Option.map_eq_some_iff, t.instant_atUtc, instant, Prod.mk.injEq]
  constructor
  · rintro ⟨date, hdate, rfl⟩
    rw [Clock.secondOfDay_ofSecond _ (by omega), Date.dayNumber_shift? hdate, hseconds]
    constructor
    · omega
    · rfl
  · rintro ⟨hwhole, hnanosecond⟩
    use t.date
    constructor
    · apply Date.shift?_eq_some_iff.mpr
      omega
    · have hclock : (m.utcSeconds % 86400).toNat = t.clock.secondOfDay := by omega
      rw [hclock, ← Fin.ext hnanosecond, Clock.ofSecond_secondOfDay]

/-- There is a timestamp in UTC exactly for the instants within the calendar. -/
theorem inCalendar_iff :
  m.InCalendar ↔ ∃ t, m.utc? = some t
  := by
  have hday : m.instant.1 / 86400 = m.wall.date.dayNumber + m.utcSeconds / 86400 := by
    rw [instant]
    omega
  rw [InCalendar, hday, utc?]
  constructor
  · rintro ⟨hbegin, hend⟩
    obtain ⟨date, hdate⟩ := Date.exists_shift? hbegin hend
    rw [hdate]
    exact ⟨_, rfl⟩
  · rintro ⟨t, ht⟩
    obtain ⟨date, hdate, -⟩ := Option.map_eq_some_iff.mp ht
    rw [← Date.dayNumber_shift? hdate]
    exact ⟨date.begin_lt_dayNumber, date.dayNumber_le_end⟩

end Moment

/-- Timestamps are told apart by their instants in UTC. -/
theorem Timestamp.instant_atUtc_inj {t u : Timestamp} :
  t.atUtc.instant = u.atUtc.instant ↔ t = u
  := by
  constructor
  · intro h
    have ht := Moment.utc?_eq_some_iff.mpr h
    rw [Moment.utc?_eq_some_iff.mpr rfl] at ht
    exact (Option.some.inj ht).symm
  · rintro rfl
    rfl

end SqlDialect
