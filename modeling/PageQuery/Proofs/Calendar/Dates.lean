import Mathlib.Algebra.Order.Group.Int
import Mathlib.Data.Prod.Lex
import Mathlib.Order.SuccPred.Archimedean
import Mathlib.Data.Int.ConditionallyCompleteOrder
import Mathlib.Data.Int.SuccPred
import Mathlib.Tactic.IntervalCases
import PageQuery.Calendar
/-!
Days and seconds as dates and times.

`Date.next` is the day after, by the rules of the calendar: the lengths of the months, and leap years.
`civil_succ` says that `civil` goes from day to day by it. So the date of a later day is a later date
(`strictMono_civil`), and the time at a later second a later time (`strictMono_time`).

In between, an era is cut into years that begin in March (`yearOfEra_daysBefore`), and a year into months
(`ofMarchYear_succ`).
-/

namespace PageQuery.Calendar

/-! ## 1. The calendar -/

/-- Every fourth year is a leap year, but of the centuries only every fourth. -/
def isLeap (year : Int) : Bool := year % 4 == 0 && (year % 100 != 0 || year % 400 == 0)

/-- The number of days of a month. -/
def daysIn (year : Int) (month : Nat) : Nat :=
  if month = 2 then (if isLeap year then 29 else 28)
  else if month = 4 ∨ month = 6 ∨ month = 9 ∨ month = 11 then 30
  else 31

namespace Date

/-- The day after. -/
def next (d : Date) : Date :=
  if d.day < daysIn d.year d.month then { d with day := d.day + 1 }
  else if d.month < 12 then ⟨d.year, d.month + 1, 1⟩
  else ⟨d.year + 1, 1, 1⟩

/-- Dates are ordered by year, then month, then day. -/
def rank (d : Date) : ℤ ×ₗ ℕ ×ₗ ℕ := toLex (d.year, toLex (d.month, d.day))

theorem rank_lt_next (d : Date) : d.rank < d.next.rank := by
  unfold next
  split
  · simp [rank, Prod.Lex.toLex_lt_toLex]
  · split
    · simp [rank, Prod.Lex.toLex_lt_toLex]
    · simp [rank, Prod.Lex.toLex_lt_toLex]

end Date

/-! ## 2. Years that begin in March -/

/-- The year of its era that a day is in. -/
def yearOfEra (day : Nat) : Nat := (day - day / 1460 + day / 36524 - day / 146096) / 365

/-- The days of an era before a year of it. -/
def daysBefore (year : Nat) : Nat := 365 * year + year / 4 - year / 100

/-- The number of days of a year that begins in March: a leap day is its last. -/
def marchLength (year : Int) : Nat := if isLeap (year + 1) then 366 else 365

/-- The date of a day of a year that begins in March. -/
def ofMarchYear (year : Int) (day : Nat) : Date :=
  let slot := (5 * day + 2) / 153
  let month := if slot < 10 then slot + 3 else slot - 9
  { year := year + (if month ≤ 2 then 1 else 0)
    month := month
    day := day - (153 * slot + 2) / 5 + 1 }

theorem civil_eq (days : Int) :
    let day := ((days + 719468) % daysPerEra).toNat
    civil days = ofMarchYear (yearOfEra day + (days + 719468) / daysPerEra * 400)
      (day - daysBefore (yearOfEra day)) := rfl

theorem marchLength_bounds (year : Int) : 365 ≤ marchLength year ∧ marchLength year ≤ 366 := by
  unfold marchLength
  split <;> omega

theorem isLeap_iff (year : Int) :
    isLeap year = true ↔ year % 4 = 0 ∧ (year % 100 ≠ 0 ∨ year % 400 = 0) := by
  simp [isLeap]

/-- The calendar repeats from era to era. -/
theorem marchLength_add_eras (year era : Int) :
    marchLength (year + era * 400) = marchLength year := by
  have hleap : isLeap (year + era * 400 + 1) = isLeap (year + 1) := by
    rw [Bool.eq_iff_iff, isLeap_iff, isLeap_iff]
    omega
  rw [marchLength, marchLength, hleap]

/-- A year of an era is one of the four years of a leap cycle, in one of the 25 cycles of a century. -/
theorem exists_cycle {year : Nat} (h : year < 400) :
    ∃ century cycle rest, century < 4 ∧ cycle < 25 ∧ rest < 4 ∧
      year = 100 * century + 4 * cycle + rest :=
  ⟨year / 100, year % 100 / 4, year % 4, by omega, by omega, by omega, by omega⟩

/-- The last year of a cycle has a leap day, unless it is the last of a century other than the last. -/
theorem lt_marchLength_iff {century cycle rest : Nat} (hcentury : century < 4) (hcycle : cycle < 25)
    (hrest : rest < 4) (day : Nat) :
    day < marchLength (100 * century + 4 * cycle + rest : Nat) ↔
      day < 365 ∨ day = 365 ∧ rest = 3 ∧ (cycle < 24 ∨ century = 3) := by
  have hleap : isLeap ((100 * century + 4 * cycle + rest : Nat) + 1) = true ↔
      rest = 3 ∧ (cycle < 24 ∨ century = 3) := by
    rw [isLeap_iff]
    omega
  rw [marchLength]
  simp only [hleap]
  split <;> omega

theorem daysBefore_cycle {century cycle rest : Nat} (hcycle : cycle < 25) (hrest : rest < 4) :
    daysBefore (100 * century + 4 * cycle + rest)
      = 36524 * century + 1461 * cycle + 365 * rest := by
  unfold daysBefore
  omega

theorem yearOfEra_daysBefore {year day : Nat} (hyear : year < 400) (hday : day < marchLength year) :
    yearOfEra (daysBefore year + day) = year := by
  obtain ⟨century, cycle, rest, hcentury, hcycle, hrest, rfl⟩ := exists_cycle hyear
  rw [lt_marchLength_iff hcentury hcycle hrest] at hday
  rw [daysBefore_cycle hcycle hrest]
  generalize htotal : 36524 * century + 1461 * cycle + 365 * rest + day = total
  -- A quotient by the length of a century or a cycle is off by one at most on the last days.
  have hlast : 1461 * cycle + 365 * rest + day < 36524 ∨
      century = 3 ∧ 1461 * cycle + 365 * rest + day = 36524 := by
    omega
  have hcenturies : total / 36524 = century + total / 146096 := by omega
  have hcycles : total / 1460
      = 25 * century + cycle + (24 * century + cycle + 365 * rest + day) / 1460 := by
    omega
  rw [yearOfEra, hcenturies, hcycles]
  omega

theorem exists_year {day : Nat} (h : day < daysPerEra) :
    ∃ year k : Nat, year < 400 ∧ k < marchLength year ∧ day = daysBefore year + k := by
  unfold daysPerEra at h
  let century := min (day / 36524) 3
  let cycle := (day - 36524 * century) / 1461
  let rest := min ((day - 36524 * century - 1461 * cycle) / 365) 3
  have hcycle : cycle < 25 := by omega
  have hrest : rest < 4 := by omega
  refine ⟨100 * century + 4 * cycle + rest, day - 36524 * century - 1461 * cycle - 365 * rest,
    by omega, ?_, ?_⟩
  · rw [lt_marchLength_iff (by omega) hcycle hrest]
    omega
  · rw [daysBefore_cycle hcycle hrest]
    omega

theorem daysBefore_succ {year : Nat} (h : year + 1 < 400) :
    daysBefore (year + 1) = daysBefore year + marchLength year := by
  have hleap : isLeap ((year : Int) + 1) = true ↔ (year + 1) % 4 = 0 ∧ (year + 1) % 100 ≠ 0 := by
    rw [isLeap_iff]
    omega
  rw [marchLength]
  simp only [hleap]
  unfold daysBefore
  split <;> omega

theorem daysBefore_add_lt {year day : Nat} (hyear : year < 400) (hday : day < marchLength year) :
    daysBefore year + day < daysPerEra := by
  obtain ⟨century, cycle, rest, hcentury, hcycle, hrest, rfl⟩ := exists_cycle hyear
  rw [lt_marchLength_iff hcentury hcycle hrest] at hday
  rw [daysBefore_cycle hcycle hrest, daysPerEra]
  omega

/-- The date of a day that is given by its era, its year in it and its place in the year. -/
theorem civil_of_year {days era : Int} {year day : Nat} (hyear : year < 400)
    (hday : day < marchLength year)
    (h : days + 719468 = era * daysPerEra + (daysBefore year + day : Nat)) :
    civil days = ofMarchYear (year + era * 400) day := by
  have hend := daysBefore_add_lt hyear hday
  have hmod : (days + 719468) % daysPerEra = (daysBefore year + day : Nat) := by
    unfold daysPerEra at *
    omega
  have hdiv : (days + 719468) / daysPerEra = era := by
    unfold daysPerEra at *
    omega
  rw [civil_eq, hmod, hdiv, Int.toNat_natCast, yearOfEra_daysBefore hyear hday, Nat.add_sub_cancel_left]

/-! ## 3. Months -/

/-- The days of a year that begins in March before a month of it. -/
def daysBeforeMonth (slot : Nat) : Nat := (153 * slot + 2) / 5

/-- The date of a day of a month of such a year, both counted from zero. -/
def inMonth (year : Int) (slot day : Nat) : Date :=
  if slot < 10 then ⟨year, slot + 3, day + 1⟩ else ⟨year + 1, slot - 9, day + 1⟩

theorem exists_month {day : Nat} (h : day < 366) :
    ∃ slot rest, slot < 12 ∧ day = daysBeforeMonth slot + rest ∧ day < daysBeforeMonth (slot + 1) := by
  unfold daysBeforeMonth
  exact ⟨(5 * day + 2) / 153, day - (153 * ((5 * day + 2) / 153) + 2) / 5, by omega, by omega, by omega⟩

theorem ofMarchYear_of_month (year : Int) {slot day : Nat} (hslot : slot < 12)
    (h : daysBeforeMonth slot + day < daysBeforeMonth (slot + 1)) :
    ofMarchYear year (daysBeforeMonth slot + day) = inMonth year slot day := by
  unfold daysBeforeMonth at *
  have hback : (5 * ((153 * slot + 2) / 5 + day) + 2) / 153 = slot := by omega
  simp only [ofMarchYear, hback, Nat.add_sub_cancel_left, inMonth]
  split
  · rw [if_neg (by omega)]
    simp
  · rw [if_pos (by omega)]

/-- Each month is as long as the calendar says; the last one ends with the year. -/
theorem daysIn_inMonth (year : Int) {slot : Nat} (h : slot < 12) (day : Nat) :
    daysBeforeMonth slot + daysIn (inMonth year slot day).year (inMonth year slot day).month
      = min (daysBeforeMonth (slot + 1)) (marchLength year) := by
  unfold marchLength
  cases hleap : isLeap (year + 1) <;>
    interval_cases slot <;> simp [daysBeforeMonth, inMonth, daysIn, hleap]

theorem next_inMonth (year : Int) {slot : Nat} (h : slot < 12) (day : Nat) :
    (inMonth year slot day).next =
      if day + 1 < daysIn (inMonth year slot day).year (inMonth year slot day).month then
        inMonth year slot (day + 1)
      else if slot < 11 then inMonth year (slot + 1) 0
      else inMonth (year + 1) 0 0 := by
  unfold Date.next
  interval_cases slot <;> simp [inMonth]

/-- A year that begins in March is walked through by the days of the calendar. -/
theorem next_ofMarchYear (year : Int) {day : Nat} (h : day < marchLength year) :
    (ofMarchYear year day).next =
      if day + 1 < marchLength year then ofMarchYear year (day + 1)
      else ofMarchYear (year + 1) 0 := by
  have hlength := marchLength_bounds year
  obtain ⟨slot, rest, hslot, rfl, hend⟩ := exists_month (h.trans_le hlength.2)
  have hmonth := daysIn_inMonth year hslot rest
  rw [ofMarchYear_of_month year hslot hend, next_inMonth year hslot]
  by_cases hsame : rest + 1 < daysIn (inMonth year slot rest).year (inMonth year slot rest).month
  · have hday : daysBeforeMonth slot + (rest + 1) < daysBeforeMonth (slot + 1) := by omega
    rw [if_pos hsame, if_pos (by omega), Nat.add_assoc, ofMarchYear_of_month year hslot hday]
  · rw [if_neg hsame]
    by_cases hlater : slot < 11
    · have hstart : daysBeforeMonth (slot + 1) ≤ 337 ∧
          daysBeforeMonth (slot + 1) + 0 < daysBeforeMonth (slot + 1 + 1) := by
        unfold daysBeforeMonth
        omega
      have hday : daysBeforeMonth slot + rest + 1 = daysBeforeMonth (slot + 1) + 0 := by omega
      rw [if_pos hlater, if_pos (by omega), hday,
        ofMarchYear_of_month year (by omega) hstart.2]
    · have hstart : daysBeforeMonth (slot + 1) = 367 := by
        unfold daysBeforeMonth
        omega
      have hfirst : ofMarchYear (year + 1) (daysBeforeMonth 0 + 0) = inMonth (year + 1) 0 0 :=
        ofMarchYear_of_month (year + 1) (by decide) (by decide)
      rw [if_neg hlater, if_neg (by omega), ← hfirst]
      rfl

/-! ## 4. Days and seconds -/

/-- Every day is a day of a year of an era. -/
theorem exists_eraYear (days : Int) :
    ∃ (era : Int) (year day : Nat), year < 400 ∧ day < marchLength year ∧
      days + 719468 = era * daysPerEra + (daysBefore year + day : Nat) := by
  have hinside : ((days + 719468) % daysPerEra).toNat < daysPerEra := by
    unfold daysPerEra
    omega
  obtain ⟨year, day, hyear, hday, hsplit⟩ := exists_year hinside
  refine ⟨(days + 719468) / daysPerEra, year, day, hyear, hday, ?_⟩
  rw [← hsplit]
  unfold daysPerEra
  omega

/-- A year of an era is followed by the next one, or by the first one of the next era. -/
theorem civil_of_next_year {days era : Int} {year : Nat} (hyear : year < 400)
    (h : days + 719468 = era * daysPerEra + (daysBefore year + marchLength year : Nat)) :
    civil days = ofMarchYear (year + era * 400 + 1) 0 := by
  have hpositive (y : Nat) : 0 < marchLength y := by
    have hbounds := marchLength_bounds y
    omega
  by_cases hlater : year + 1 < 400
  · rw [← daysBefore_succ hlater] at h
    have hcivil := civil_of_year hlater (hpositive _) h
    rw [hcivil]
    congr 1
    omega
  · obtain rfl : year = 399 := by omega
    have hera : daysBefore 399 + marchLength (399 : Nat) = daysPerEra := by decide
    rw [hera] at h
    have hcivil : civil days = ofMarchYear ((0 : Nat) + (era + 1) * 400) 0 := by
      refine civil_of_year (by omega) (hpositive 0) ?_
      have hstart : daysBefore 0 + 0 = 0 := rfl
      rw [h, Int.add_mul, Int.one_mul, hstart]
      simp
    rw [hcivil]
    congr 1
    omega

/-- **Dates follow the calendar.** The date of the day after is the day after the date. -/
theorem civil_succ (days : Int) : civil (days + 1) = (civil days).next := by
  obtain ⟨era, year, day, hyear, hday, hera⟩ := exists_eraYear days
  have hday' : day < marchLength (year + era * 400) := by rwa [marchLength_add_eras]
  rw [civil_of_year hyear hday hera, next_ofMarchYear _ hday', marchLength_add_eras]
  by_cases hnext : day + 1 < marchLength year
  · rw [if_pos hnext]
    exact civil_of_year hyear hnext (by omega)
  · rw [if_neg hnext]
    exact civil_of_next_year hyear (by omega)

/-- The first day, from which the others are counted. -/
theorem civil_zero : civil 0 = ⟨1970, 1, 1⟩ := by decide

/-- The date of a day is one of the calendar. -/
theorem civil_bounds (days : Int) :
    let d := civil days
    1 ≤ d.month ∧ d.month ≤ 12 ∧ 1 ≤ d.day ∧ d.day ≤ daysIn d.year d.month := by
  obtain ⟨era, year, day, hyear, hday, hera⟩ := exists_eraYear days
  rw [← marchLength_add_eras year era] at hday
  obtain ⟨slot, rest, hslot, rfl, hend⟩ := exists_month (hday.trans_le (marchLength_bounds _).2)
  have hmonth := daysIn_inMonth (year + era * 400) hslot rest
  have hcivil : civil days = inMonth (year + era * 400) slot rest := by
    rw [civil_of_year hyear (by rwa [← marchLength_add_eras year era]) hera,
      ofMarchYear_of_month _ hslot hend]
  have hdate (y : Int) : 1 ≤ (inMonth y slot rest).month ∧ (inMonth y slot rest).month ≤ 12 ∧
      (inMonth y slot rest).day = rest + 1 := by
    unfold inMonth
    split
    · exact ⟨by simp, by simp; omega, rfl⟩
    · exact ⟨by simp; omega, by simp; omega, rfl⟩
  obtain ⟨hlow, hhigh, hrest⟩ := hdate (year + era * 400)
  rw [hcivil]
  exact ⟨hlow, hhigh, by omega, by omega⟩

theorem strictMono_civil : StrictMono fun days => (civil days).rank := by
  apply strictMono_int_of_lt_succ
  intro days
  rw [civil_succ]
  exact (civil days).rank_lt_next

/-- Times are ordered by date, then hour, minute and second. -/
def Time.rank (t : Time) : (ℤ ×ₗ ℕ ×ₗ ℕ) ×ₗ ℕ ×ₗ ℕ ×ₗ ℕ :=
  toLex (t.date.rank, toLex (t.hour, toLex (t.minute, t.second)))

/-- **Later seconds have later times**, whatever the offset at which they are shown. -/
theorem strictMono_time (offset : Int) : StrictMono fun unix => (time unix offset).rank := by
  intro u v h
  simp only [Time.rank, time, Prod.Lex.toLex_lt_toLex]
  rcases lt_or_eq_of_le (show (u + offset) / 86400 ≤ (v + offset) / 86400 by omega) with hday | hday
  · exact Or.inl (strictMono_civil hday)
  · right
    rw [hday]
    refine ⟨rfl, ?_⟩
    omega

end PageQuery.Calendar
