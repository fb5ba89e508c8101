import ElKeeper.OrderedTexts
import ElKeeper.Timestamps

/-!
# Instants of the calendar

Every instant between the first day of the year 1 and the last day of the year 9999 is the
instant of one wall clock reading, which `ofInstant` finds.  Readings are ordered like their
instants, field by field, and so are their texts with a full fraction.
-/

namespace ElKeeper

namespace DateTime

/-- The days before the year that follows this many years. -/
def daysBeforeYear (years : Nat) : Nat :=
  years * 365 + years / 4 - years / 100 + years / 400

def yearLength (year : Nat) : Nat :=
  if isLeapYear year then 366 else 365

/-- The days of a year before the month that follows this many months. -/
def daysBeforeMonth (year months : Nat) : Nat :=
  ((List.range months).map fun month => daysInMonth year (month + 1)).sum

theorem isLeapYear_iff (year : Nat) :
    isLeapYear year = true ↔ year % 4 = 0 ∧ (year % 100 ≠ 0 ∨ year % 400 = 0) := by
  simp [isLeapYear]

theorem div_succ (number base : Nat) :
    (number + 1) / base = number / base + if (number + 1) % base = 0 then 1 else 0 := by
  rw [Nat.succ_div]
  simp only [Nat.dvd_iff_mod_eq_zero]

theorem daysBeforeYear_succ (years : Nat) :
    daysBeforeYear (years + 1) = daysBeforeYear years + yearLength (years + 1) := by
  have fewer : years / 100 ≤ years := Nat.div_le_self _ _
  have century : (years + 1) % 400 = 0 → (years + 1) % 100 = 0 := by omega
  have quad : (years + 1) % 100 = 0 → (years + 1) % 4 = 0 := by omega
  simp only [daysBeforeYear, yearLength, isLeapYear_iff, div_succ]
  generalize (years + 1) % 4 = inQuad at *
  generalize (years + 1) % 100 = inCentury at *
  generalize (years + 1) % 400 = inCycle at *
  generalize years / 4 = quads at *
  generalize years / 100 = centuries at *
  generalize years / 400 = cycles at *
  split_ifs
  all_goals omega

theorem daysBeforeMonth_succ (year months : Nat) :
    daysBeforeMonth year (months + 1) =
      daysBeforeMonth year months + daysInMonth year (months + 1) := by
  simp [daysBeforeMonth, List.range_succ]

/-- The months of a year are the year. -/
theorem daysBeforeMonth_twelve (year : Nat) : daysBeforeMonth year 12 = yearLength year := by
  unfold yearLength
  by_cases leap : isLeapYear year = true
  · simp [daysBeforeMonth, List.range_succ, daysInMonth, leap]
  · simp [daysBeforeMonth, List.range_succ, daysInMonth, leap]

/-- The day of the year. -/
def dayOfYear (moment : DateTime) : Nat :=
  daysBeforeMonth moment.year (moment.month - 1) + moment.day

theorem ordinal_eq (moment : DateTime) :
    moment.ordinal = daysBeforeYear (moment.year - 1) + moment.dayOfYear := by
  simp only [ordinal, daysBeforeYear, dayOfYear, daysBeforeMonth]
  omega

theorem day_fits (moment : DateTime) :
    1 ≤ moment.day ∧ moment.day ≤ daysInMonth moment.year (moment.month - 1 + 1) := by
  obtain ⟨-, ⟨month, -⟩, day, -⟩ := moment.valid
  rwa [Nat.sub_add_cancel month]

theorem dayOfYear_fits (moment : DateTime) :
    1 ≤ moment.dayOfYear ∧ moment.dayOfYear ≤ yearLength (moment.year - 1 + 1) := by
  obtain ⟨⟨year, -⟩, ⟨month, twelve⟩, -⟩ := moment.valid
  obtain ⟨positive, fits⟩ := moment.day_fits
  have ends := daysBeforeMonth_succ moment.year (moment.month - 1)
  have inYear := before_mono (daysBeforeMonth_succ moment.year)
    (by omega : moment.month - 1 + 1 ≤ 12)
  rw [daysBeforeMonth_twelve] at inYear
  rw [Nat.sub_add_cancel year, dayOfYear]
  omega

/-! ### Field by field -/

/-- The fields of a reading come before those of another one. -/
def Precedes (first second : DateTime) : Prop :=
  first.year < second.year ∨ first.year = second.year ∧
    (first.month < second.month ∨ first.month = second.month ∧
      (first.day < second.day ∨ first.day = second.day ∧
        (first.hour < second.hour ∨ first.hour = second.hour ∧
          (first.minute < second.minute ∨ first.minute = second.minute ∧
            (first.second < second.second ∨ first.second = second.second ∧
              first.microsecond < second.microsecond)))))

theorem eq_of_fields {first second : DateTime} (year : first.year = second.year)
    (month : first.month = second.month) (day : first.day = second.day)
    (hour : first.hour = second.hour) (minute : first.minute = second.minute)
    (secs : first.second = second.second) (microsecond : first.microsecond = second.microsecond) :
    first = second := by
  cases first
  cases second
  simp_all

theorem precedes_trichotomy (first second : DateTime) :
    Precedes first second ∨ first = second ∨ Precedes second first := by
  by_cases same : first = second
  · exact .inr (.inl same)
  · have differ : ¬ (first.year = second.year ∧ first.month = second.month ∧
        first.day = second.day ∧ first.hour = second.hour ∧ first.minute = second.minute ∧
        first.second = second.second ∧ first.microsecond = second.microsecond) := by
      rintro ⟨year, month, day, hour, minute, secs, microsecond⟩
      exact same (eq_of_fields year month day hour minute secs microsecond)
    unfold Precedes
    omega

theorem instant_lt_of_ordinal {first second : DateTime} (days : first.ordinal < second.ordinal) :
    first.instant < second.instant := by
  obtain ⟨-, -, -, hour, minute, secs, micros⟩ := first.valid
  simp only [instant]
  omega

theorem instant_lt_of_precedes {first second : DateTime} (precedes : Precedes first second) :
    first.instant < second.instant := by
  obtain ⟨⟨firstYear, -⟩, ⟨firstMonth, -⟩, -, hour, minute, secs, micros⟩ := first.valid
  obtain ⟨⟨secondYear, -⟩, ⟨secondMonth, -⟩, -⟩ := second.valid
  rcases precedes with year | ⟨year, month | ⟨month, day | ⟨day, clock⟩⟩⟩
  · apply instant_lt_of_ordinal
    rw [ordinal_eq, ordinal_eq]
    exact position_lt daysBeforeYear_succ (by omega) first.dayOfYear_fits.2
      second.dayOfYear_fits.1
  · apply instant_lt_of_ordinal
    have days : first.dayOfYear < second.dayOfYear := by
      rw [dayOfYear, dayOfYear, ← year]
      exact position_lt (daysBeforeMonth_succ first.year) (by omega) first.day_fits.2
        second.day_fits.1
    rw [ordinal_eq, ordinal_eq, ← year]
    omega
  · apply instant_lt_of_ordinal
    rw [ordinal_eq, ordinal_eq, dayOfYear, dayOfYear, ← year, ← month]
    omega
  · have days : first.ordinal = second.ordinal := by
      rw [ordinal_eq, ordinal_eq, dayOfYear, dayOfYear, ← year, ← month, ← day]
    simp only [instant, days]
    omega

/-- Readings are ordered like their instants. -/
theorem precedes_iff (first second : DateTime) :
    Precedes first second ↔ first.instant < second.instant := by
  refine ⟨instant_lt_of_precedes, fun earlier => ?_⟩
  rcases precedes_trichotomy first second with precedes | rfl | follows
  · exact precedes
  · exact absurd earlier (lt_irrefl _)
  · exact absurd earlier (instant_lt_of_precedes follows).not_gt

theorem instant_injective {first second : DateTime} (same : first.instant = second.instant) :
    first = second := by
  rcases precedes_trichotomy first second with precedes | equal | follows
  · exact absurd same (instant_lt_of_precedes precedes).ne
  · exact equal
  · exact absurd same (instant_lt_of_precedes follows).ne'

/-! ### The reading of an instant -/

/-- The parts of a number of days: cycles of 400 years, centuries, quads and single years. -/
theorem daysBeforeYear_parts (cycles : Nat) {centuries quads singles : Nat}
    (century : centuries ≤ 3) (quad : quads ≤ 24) (single : singles ≤ 3) :
    daysBeforeYear (cycles * 400 + centuries * 100 + quads * 4 + singles) =
      cycles * 146097 + centuries * 36524 + quads * 1461 + singles * 365 := by
  have inQuads : (cycles * 400 + centuries * 100 + quads * 4 + singles) / 4 =
      cycles * 100 + centuries * 25 + quads := by omega
  have inCenturies : (cycles * 400 + centuries * 100 + quads * 4 + singles) / 100 =
      cycles * 4 + centuries := by omega
  have inCycles : (cycles * 400 + centuries * 100 + quads * 4 + singles) / 400 = cycles := by
    omega
  rw [daysBeforeYear, inQuads, inCenturies, inCycles]
  omega

/-- Of the parts of a year, the last single one is the leap day's, except at the end of the
first three centuries of a cycle. -/
theorem isLeapYear_parts (cycles : Nat) {centuries quads singles : Nat}
    (century : centuries ≤ 3) (quad : quads ≤ 24) (single : singles ≤ 3) :
    isLeapYear (cycles * 400 + centuries * 100 + quads * 4 + singles + 1) = true ↔
      singles = 3 ∧ (quads = 24 → centuries = 3) := by
  rw [isLeapYear_iff]
  omega

/-- The year and the day of the year are found by division. -/
theorem yearAndDay_spec {ordinal : Nat} (positive : 1 ≤ ordinal) :
    1 ≤ (yearAndDay ordinal).1 ∧ 1 ≤ (yearAndDay ordinal).2 ∧
      (yearAndDay ordinal).2 ≤ yearLength (yearAndDay ordinal).1 ∧
      daysBeforeYear ((yearAndDay ordinal).1 - 1) + (yearAndDay ordinal).2 = ordinal := by
  obtain ⟨days, rfl⟩ : ∃ days, ordinal = days + 1 := ⟨ordinal - 1, by omega⟩
  simp only [yearAndDay, Nat.add_sub_cancel]
  have inCycle := Nat.mod_lt days (by decide : 0 < 146097)
  have cycleParts := Nat.div_add_mod days 146097
  generalize days / 146097 = cycles at *
  generalize days % 146097 = inCycles at *
  obtain ⟨centuries, isCentury⟩ : ∃ centuries, centuries = min 3 (inCycles / 36524) := ⟨_, rfl⟩
  rw [← isCentury]
  obtain ⟨rest, isRest⟩ : ∃ rest, rest = inCycles - centuries * 36524 := ⟨_, rfl⟩
  rw [← isRest]
  have century : centuries ≤ 3 ∧ centuries * 36524 ≤ inCycles ∧ rest ≤ 36524 ∧
      (centuries < 3 → rest < 36524) := by omega
  have inQuad := Nat.mod_lt rest (by decide : 0 < 1461)
  have quadParts := Nat.div_add_mod rest 1461
  generalize rest / 1461 = quads at *
  generalize rest % 1461 = inQuads at *
  obtain ⟨singles, isSingle⟩ : ∃ singles, singles = min 3 (inQuads / 365) := ⟨_, rfl⟩
  rw [← isSingle]
  have single : singles ≤ 3 ∧ singles * 365 ≤ inQuads ∧ inQuads - singles * 365 ≤ 365 ∧
      (singles < 3 → inQuads - singles * 365 < 365) := by omega
  have quad : quads ≤ 24 := by omega
  have before := daysBeforeYear_parts cycles century.1 quad single.1
  have leap := isLeapYear_parts cycles century.1 quad single.1
  refine ⟨by omega, by omega, ?_, by omega⟩
  unfold yearLength
  split
  · omega
  · rename_i common
    rw [leap] at common
    omega

/-- The month and the day are found by counting up from a month. -/
theorem monthAndDay_spec (year fuel month day : Nat) (positive : 1 ≤ day) :
    ∃ passed ≤ fuel, (monthAndDay year fuel (month + 1) day).1 = month + passed + 1 ∧
      1 ≤ (monthAndDay year fuel (month + 1) day).2 ∧
      daysBeforeMonth year (month + passed) + (monthAndDay year fuel (month + 1) day).2 =
        daysBeforeMonth year month + day ∧
      (passed < fuel → (monthAndDay year fuel (month + 1) day).2 ≤
        daysInMonth year (month + passed + 1)) := by
  induction fuel generalizing month day with
  | zero => exact ⟨0, le_rfl, rfl, positive, rfl, by simp⟩
  | succ fuel ih =>
      unfold monthAndDay
      by_cases fits : day ≤ daysInMonth year (month + 1)
      · rw [if_pos fits]
        exact ⟨0, by omega, rfl, positive, rfl, fun _ => fits⟩
      · rw [if_neg fits]
        obtain ⟨passed, within, found, dayFound, counted, fitsMonth⟩ :=
          ih (month + 1) (day - daysInMonth year (month + 1)) (by omega)
        have next := daysBeforeMonth_succ year month
        have shifted : month + 1 + passed = month + (passed + 1) := by omega
        rw [shifted] at found counted fitsMonth
        refine ⟨passed + 1, by omega, found, dayFound, ?_, fun less => fitsMonth (by omega)⟩
        omega

theorem make_eq_some_iff {year month day hour minute second microsecond : Nat}
    {moment : DateTime} :
    make year month day hour minute second microsecond = some moment ↔
      moment.year = year ∧ moment.month = month ∧ moment.day = day ∧ moment.hour = hour ∧
        moment.minute = minute ∧ moment.second = second ∧ moment.microsecond = microsecond := by
  constructor
  · intro made
    unfold make at made
    split at made
    · cases made
      exact ⟨rfl, rfl, rfl, rfl, rfl, rfl, rfl⟩
    · cases made
  · rintro ⟨rfl, rfl, rfl, rfl, rfl, rfl, rfl⟩
    simp [make, moment.valid]

/-- The month and the day that are counted up to are in the calendar. -/
theorem monthAndDay_fits {year day : Nat} (positive : 1 ≤ day) (fits : day ≤ yearLength year) :
    ∃ months ≤ 11, (monthAndDay year 11 1 day).1 = months + 1 ∧
      1 ≤ (monthAndDay year 11 1 day).2 ∧
      (monthAndDay year 11 1 day).2 ≤ daysInMonth year (months + 1) ∧
      daysBeforeMonth year months + (monthAndDay year 11 1 day).2 = day := by
  obtain ⟨months, within, found, positive, counted, inMonth⟩ :=
    monthAndDay_spec year 11 0 day positive
  have none : daysBeforeMonth year 0 = 0 := rfl
  simp only [Nat.zero_add, none] at found positive counted inMonth
  refine ⟨months, within, found, positive, ?_, counted⟩
  rcases within.lt_or_eq with less | rfl
  · exact inMonth less
  · have ends := daysBeforeMonth_succ year 11
    rw [daysBeforeMonth_twelve] at ends
    omega

/-- The month and the day of a day of the year. -/
theorem monthAndDay_dayOfYear (moment : DateTime) :
    monthAndDay moment.year 11 1 moment.dayOfYear = (moment.month, moment.day) := by
  obtain ⟨⟨year, -⟩, ⟨month, twelve⟩, -⟩ := moment.valid
  obtain ⟨positive, fits⟩ := moment.dayOfYear_fits
  rw [Nat.sub_add_cancel year] at fits
  obtain ⟨months, within, found, positive, inMonth, counted⟩ := monthAndDay_fits positive fits
  have same := position_unique (daysBeforeMonth_succ moment.year) ⟨positive, inMonth⟩
    moment.day_fits counted
  apply Prod.ext
  · dsimp only
    omega
  · exact same.2

/-- The year and the day of the year of an ordinal. -/
theorem yearAndDay_ordinal (moment : DateTime) :
    yearAndDay moment.ordinal = (moment.year, moment.dayOfYear) := by
  obtain ⟨⟨year, -⟩, -⟩ := moment.valid
  have days := moment.ordinal_eq
  have inYear := moment.dayOfYear_fits
  obtain ⟨foundYear, foundDay, fits, counted⟩ :=
    yearAndDay_spec (by omega : 1 ≤ moment.ordinal)
  have same := position_unique daysBeforeYear_succ
    ⟨foundDay, by rwa [Nat.sub_add_cancel foundYear]⟩ inYear (counted.trans days)
  apply Prod.ext
  · dsimp only
    omega
  · exact same.2

/-- The fields of an instant, from its day and its time of day. -/
theorem ofInstant_of_parts {instant : Int} {year dayOfYear month day : Nat}
    (late : ¬ instant < 86400000000)
    (inYear : yearAndDay (instant.toNat / 1000000 / 86400) = (year, dayOfYear))
    (inMonth : monthAndDay year 11 1 dayOfYear = (month, day)) :
    ofInstant instant =
      make year month day (instant.toNat / 1000000 / 3600 % 24)
        (instant.toNat / 1000000 / 60 % 60) (instant.toNat / 1000000 % 60)
        (instant.toNat % 1000000) := by
  unfold ofInstant
  rw [if_neg late]
  simp only [inYear, inMonth]

/-- The reading of an instant that has one. -/
theorem ofInstant_instant (moment : DateTime) : ofInstant moment.instant = some moment := by
  obtain ⟨-, -, -, hour, minute, secs, micros⟩ := moment.valid
  have positive : 1 ≤ moment.ordinal := by
    have days := moment.ordinal_eq
    have inYear := moment.dayOfYear_fits
    omega
  have late : ¬ ((moment.instant : Int) < 86400000000) := by
    simp only [instant]
    omega
  have seconds : moment.instant / 1000000 =
      ((moment.ordinal * 24 + moment.hour) * 60 + moment.minute) * 60 + moment.second := by
    simp only [instant]
    omega
  have micro : moment.instant % 1000000 = moment.microsecond := by
    simp only [instant]
    omega
  have ordinal : moment.instant / 1000000 / 86400 = moment.ordinal := by omega
  have ofHour : moment.instant / 1000000 / 3600 % 24 = moment.hour := by omega
  have ofMinute : moment.instant / 1000000 / 60 % 60 = moment.minute := by omega
  have ofSecond : moment.instant / 1000000 % 60 = moment.second := by omega
  have inYear := moment.yearAndDay_ordinal
  rw [← ordinal, ← Int.toNat_natCast moment.instant] at inYear
  rw [ofInstant_of_parts late inYear moment.monthAndDay_dayOfYear, make_eq_some_iff,
    Int.toNat_natCast]
  exact ⟨rfl, rfl, rfl, ofHour.symm, ofMinute.symm, ofSecond.symm, micro.symm⟩

/-- An instant has at most one reading, and `ofInstant` finds it. -/
theorem ofInstant_eq_some_iff (instant : Int) (moment : DateTime) :
    ofInstant instant = some moment ↔ (moment.instant : Int) = instant := by
  constructor
  · intro found
    have late : ¬ instant < 86400000000 := by
      intro early
      rw [ofInstant, if_pos early] at found
      cases found
    have positive : 1 ≤ instant.toNat / 1000000 / 86400 := by omega
    obtain ⟨-, day, -, inYears⟩ := yearAndDay_spec positive
    rcases inYear : yearAndDay (instant.toNat / 1000000 / 86400) with ⟨year, dayOfYear⟩
    rw [inYear] at day inYears
    obtain ⟨passed, -, month, -, inMonths, -⟩ := monthAndDay_spec year 11 0 dayOfYear day
    rcases inMonth : monthAndDay year 11 1 dayOfYear with ⟨monthOfYear, dayOfMonth⟩
    simp only [Nat.zero_add, inMonth] at month inMonths
    rw [ofInstant_of_parts late inYear inMonth, make_eq_some_iff] at found
    obtain ⟨isYear, isMonth, isDay, isHour, isMinute, isSecond, isMicrosecond⟩ := found
    have days : moment.ordinal = instant.toNat / 1000000 / 86400 := by
      rw [ordinal_eq, DateTime.dayOfYear, isYear, isMonth, isDay, ← inYears, month,
        Nat.add_sub_cancel, inMonths]
      simp [daysBeforeMonth]
    simp only [DateTime.instant, days, isHour, isMinute, isSecond, isMicrosecond]
    omega
  · rintro rfl
    exact ofInstant_instant moment

/-- The instants of the calendar, the last day of the year 9999 included, have readings. -/
theorem ofInstant_isSome_iff (instant : Int) :
    (ofInstant instant).isSome ↔ 86400000000 ≤ instant ∧ instant < 315537984000000000 := by
  constructor
  · intro isSome
    obtain ⟨moment, found⟩ := Option.isSome_iff_exists.mp isSome
    rw [ofInstant_eq_some_iff] at found
    obtain ⟨⟨year, last⟩, -, -, hour, minute, secs, micros⟩ := moment.valid
    have days := moment.ordinal_eq
    obtain ⟨positive, fits⟩ := moment.dayOfYear_fits
    have ends := daysBeforeYear_succ (moment.year - 1)
    have within := before_mono daysBeforeYear_succ (by omega : moment.year - 1 + 1 ≤ 9999)
    have total : daysBeforeYear 9999 = 3652059 := rfl
    simp only [DateTime.instant] at found
    omega
  · rintro ⟨early, late⟩
    have positive : 1 ≤ instant.toNat / 1000000 / 86400 := by omega
    obtain ⟨first, day, fits, inYears⟩ := yearAndDay_spec positive
    rcases inYear : yearAndDay (instant.toNat / 1000000 / 86400) with ⟨year, dayOfYear⟩
    rw [inYear] at first day fits inYears
    dsimp only at first day fits inYears
    obtain ⟨months, within, found, dayOfMonth, inMonth, -⟩ := monthAndDay_fits day fits
    rcases isMonth : monthAndDay year 11 1 dayOfYear with ⟨month, dayFound⟩
    rw [isMonth] at found dayOfMonth inMonth
    have last : year ≤ 9999 := by
      by_contra beyond
      have passed := before_mono daysBeforeYear_succ (by omega : 9999 ≤ year - 1)
      have total : daysBeforeYear 9999 = 3652059 := rfl
      omega
    rw [ofInstant_of_parts (by omega) inYear isMonth, make, dif_pos]
    · rfl
    · dsimp only at found dayOfMonth inMonth first
      rw [found]
      refine ⟨⟨first, last⟩, by omega, ⟨dayOfMonth, inMonth⟩, ?_⟩
      omega

end DateTime

end ElKeeper
