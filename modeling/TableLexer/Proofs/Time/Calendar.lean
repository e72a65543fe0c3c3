import Mathlib.Tactic.Ring
import TableLexer.Time.Date

/-!
# Days and dates

The date of a day is a valid date, and counting the days up to that date gives the day
back (`isValid_ofDayNumber`, `toDayNumber_ofDayNumber`).

An era of 400 years has four centuries, of 36524 days but for the last one, which has one
more.  A century is cut into pieces of four years, of 1461 days but for the last piece of a
century other than the fourth, which has one less; and only the last of four years can have
a day 365, counted from 0.  The year of the era is computed from the day of the era by one
quotient, which is right because the corrections in it come to the leap days before that
year (`DayOfEra.yearOfEra`).
-/

namespace TableLexer
namespace Date

/-- A day of an era, counted from 0: its century, the four years in that century, the year
of these and the day of that year, all counted from 0. -/
structure DayOfEra (day century four year dayOfYear : Int) : Prop where
  day_eq : day = 36524 * century + 1461 * four + 365 * year + dayOfYear
  century_mem : 0 ≤ century ∧ century ≤ 3
  four_mem : 0 ≤ four ∧ four ≤ 24
  year_mem : 0 ≤ year ∧ year ≤ 3
  dayOfYear_mem : 0 ≤ dayOfYear ∧ dayOfYear ≤ 365
  last_of_four : dayOfYear = 365 → year = 3
  last_of_century : dayOfYear = 365 → four = 24 → century = 3

theorem exists_dayOfEra
    {day : Int}
    (hday : 0 ≤ day ∧ day < 146097) :
    ∃ century four year dayOfYear, DayOfEra day century four year dayOfYear := by
  let century := day / 36524 - day / 146096
  let dayOfCentury := day - 36524 * century
  have hcentury : 0 ≤ century ∧ century ≤ 3 := by omega
  have hdayOfCentury : 0 ≤ dayOfCentury ∧ dayOfCentury ≤ 36524 := by omega
  have hfull : dayOfCentury = 36524 → century = 3 := by omega
  let four := dayOfCentury / 1461
  let dayOfFour := dayOfCentury % 1461
  let year := dayOfFour / 365 - dayOfFour / 1460
  refine ⟨century, four, year, dayOfFour - 365 * year, ?_, hcentury, ?_, ?_, ?_, ?_, ?_⟩
  all_goals omega

namespace DayOfEra

variable {day century four year dayOfYear : Int}

/-- The year of the era, by one quotient. -/
theorem yearOfEra
    (h : DayOfEra day century four year dayOfYear) :
    (day - day / 1460 + day / 36524 - day / 146096) / 365 =
      100 * century + 4 * four + year := by
  have hquotient : ∀ q w : Int, 0 ≤ w → w < 365 → (365 * q + w) / 365 = q := by omega
  obtain ⟨hday, hcentury, hfour, hyear, hdayOfYear, hlast, hlast_century⟩ := h
  -- at the end of a year the leap day to come may be taken off already, but then a day is
  -- left
  let early := (24 * century + four + 365 * year + dayOfYear) / 1460
  have hearly : 0 ≤ dayOfYear - early ∧ dayOfYear - early < 365 := by
    clear hday hlast_century
    have hsmall : 0 ≤ early ∧ early ≤ 1 := by omega
    have hfirst : dayOfYear = 0 → early = 0 := by omega
    have hend : dayOfYear = 365 → early = 1 := by omega
    omega
  have hfours : day / 1460 = 25 * century + four + early := by omega
  have hcenturies : day / 36524 - day / 146096 = century := by
    have hrest : 1461 * four + 365 * year + dayOfYear < 36524 + century / 3 := by omega
    by_cases hend : day = 146096
    · omega
    · have hover : day / 146096 = 0 := by omega
      have hcentury' : day / 36524 = century := by omega
      omega
  have hnumerator :
      day - day / 1460 + day / 36524 - day / 146096
        =
      365 * (100 * century + 4 * four + year) + (dayOfYear - early) := by
    rw [Int.add_sub_assoc, hcenturies, hfours, hday]
    ring
  rw [hnumerator, hquotient _ _ hearly.1 hearly.2]

/-- The day of the year is what the days of the years before it leave of the day of the
era. -/
theorem dayOfYear_eq
    (h : DayOfEra day century four year dayOfYear) :
    day - (365 * (100 * century + 4 * four + year) + (100 * century + 4 * four + year) / 4
      - (100 * century + 4 * four + year) / 100)
      =
    dayOfYear := by
  obtain ⟨hday, hcentury, hfour, hyear, -, -, -⟩ := h
  have hfours : (100 * century + 4 * four + year) / 4 = 25 * century + four := by omega
  have hcenturies : (100 * century + 4 * four + year) / 100 = century := by omega
  omega

end DayOfEra

/-- The date of a day of an era, by its year from March on, its month from March on, and
its day of the month. -/
theorem exists_ofDayNumber
    (n : Int) :
    ∃ era yearOfEra dayOfYear : Int,
      (0 ≤ yearOfEra ∧ yearOfEra < 400) ∧
      (0 ≤ dayOfYear ∧ dayOfYear ≤ 365) ∧
      (dayOfYear = 365 → isLeapYear (400 * era + yearOfEra + 1) = true) ∧
      n + 719468 = 146097 * era + 365 * yearOfEra +
        yearOfEra / 4 - yearOfEra / 100 + dayOfYear ∧
      ofDayNumber n
        =
      let month := (5 * dayOfYear + 2) / 153
      let day := dayOfYear - (153 * month + 2) / 5 + 1
      if month < 10 then
        ⟨yearOfEra + era * 400, (month + 3).toNat, day.toNat⟩
      else
        ⟨yearOfEra + era * 400 + 1, (month - 9).toNat, day.toNat⟩ := by
  obtain ⟨century, four, year, dayOfYear, h⟩ :=
    @exists_dayOfEra ((n + 719468) % 146097) (by omega)
  have hyear := h.yearOfEra
  have hdayOfYear := h.dayOfYear_eq
  refine ⟨(n + 719468) / 146097, 100 * century + 4 * four + year, dayOfYear, ?_,
    h.dayOfYear_mem, ?_, ?_, ?_⟩
  · obtain ⟨-, hcentury, hfour, hyear, -, -, -⟩ := h
    omega
  · intro hlast
    obtain ⟨-, hcentury, hfour, -, -, hlast_year, hlast_century⟩ := h
    have hthree := hlast_year hlast
    have hfour_or : four < 24 ∨ century = 3 := by omega
    simp only [isLeapYear, Bool.and_eq_true, Bool.or_eq_true, beq_iff_eq, bne_iff_ne]
    omega
  · omega
  · unfold ofDayNumber
    simp only [hyear, hdayOfYear]

/-- Counting the days up to the date of a day gives that day. -/
theorem toDayNumber_ofDayNumber
    (n : Int) :
    (ofDayNumber n).toDayNumber = n := by
  obtain ⟨era, yearOfEra, dayOfYear, hyear, hday, -, hn, hdate⟩ := exists_ofDayNumber n
  rw [hdate]
  unfold toDayNumber
  simp only
  by_cases hmonth : (5 * dayOfYear + 2) / 153 < 10
  · have hspring : ¬ ((5 * dayOfYear + 2) / 153 + 3).toNat ≤ 2 := by omega
    simp only [hmonth, if_true, hspring, if_false]
    have hera : (yearOfEra + era * 400) / 400 = era := by omega
    have hrest : (yearOfEra + era * 400) % 400 = yearOfEra := by omega
    rw [hera, hrest]
    omega
  · have hwinter : ((5 * dayOfYear + 2) / 153 - 9).toNat ≤ 2 := by omega
    simp only [hmonth, if_false, hwinter, if_true]
    have hera : (yearOfEra + era * 400 + 1 - 1) / 400 = era := by omega
    have hrest : (yearOfEra + era * 400 + 1 - 1) % 400 = yearOfEra := by omega
    rw [hera, hrest]
    omega

/-- The date of a day is a valid one. -/
theorem isValid_ofDayNumber
    (n : Int) :
    (ofDayNumber n).isValid = true := by
  obtain ⟨era, yearOfEra, dayOfYear, hyear, hday, hleap, hn, hdate⟩ := exists_ofDayNumber n
  rw [hdate]
  by_cases hmonth : (5 * dayOfYear + 2) / 153 < 10
  · simp only [hmonth, if_true, isValid, daysInMonth, Bool.and_eq_true, decide_eq_true_eq]
    have hnumber : ¬ ((5 * dayOfYear + 2) / 153 + 3).toNat = 2 := by omega
    rw [if_neg hnumber]
    split <;> omega
  · simp only [hmonth, if_false, isValid, daysInMonth, Bool.and_eq_true, decide_eq_true_eq]
    have hyear_eq : yearOfEra + era * 400 + 1 = 400 * era + yearOfEra + 1 := by omega
    rw [hyear_eq]
    by_cases hlast : dayOfYear = 365
    · rw [hleap hlast, hlast]
      decide
    · split
      · split <;> omega
      · split <;> omega

end Date
end TableLexer
