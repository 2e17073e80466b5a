import HostingClient.Time.Instant

/-! # Days and dates

Every day has a date that exists, and the date gives the day back. A day of an era of 400 years is split
into centuries, spans of four years, years and days, of which the last year of a span or century may have
one day more (`DayOfEra`); in these numbers the formulas for the year are linear. -/

namespace HostingClient.Time

/-- A day of an era: centuries, spans of four years, years, and the day of the year from March on. -/
structure DayOfEra (day e k j t : Int) : Prop where
  eq : day = 36524 * e + 1461 * k + 365 * j + t
  century : 0 ≤ e ∧ e ≤ 3
  span : 0 ≤ k ∧ k ≤ 24
  year : 0 ≤ j ∧ j ≤ 3
  first : 0 ≤ t
  last : t ≤ 364 ∨ t = 365 ∧ j = 3 ∧ (k ≤ 23 ∨ e = 3)

theorem exists_dayOfEra {d : Int} (h0 : 0 ≤ d) (h1 : d ≤ 146096) : ∃ e k j t, DayOfEra d e k j t := by
  obtain ⟨e, he⟩ : ∃ e, e = if d = 146096 then 3 else d / 36524 := ⟨_, rfl⟩
  obtain ⟨r, hr⟩ : ∃ r, r = d - 36524 * e := ⟨_, rfl⟩
  obtain ⟨q, hq⟩ : ∃ q, q = r - 1461 * (r / 1461) := ⟨_, rfl⟩
  obtain ⟨j, hj⟩ : ∃ j, j = if q = 1460 then 3 else q / 365 := ⟨_, rfl⟩
  have he' : 0 ≤ e ∧ e ≤ 3 := by split at he <;> omega
  have hr' : 0 ≤ r ∧ (r ≤ 36523 ∨ r = 36524 ∧ e = 3) := by split at he <;> omega
  have hj' : 0 ≤ j ∧ j ≤ 3 := by split at hj <;> omega
  refine ⟨e, r / 1461, j, q - 365 * j, by omega, he', by omega, hj', ?_, ?_⟩
  · split at hj <;> omega
  · split at hj <;> omega

namespace DayOfEra

variable {d e k j t : Int} (h : DayOfEra d e k j t)
include h

theorem le : 0 ≤ d ∧ d ≤ 146096 := by
  obtain ⟨h1, h2, h3, h4, h5, h6⟩ := h
  omega

/-- The formula for the year of the era. -/
theorem yearOfEra : (d - d / 1460 + d / 36524 - d / 146096) / 365 = 100 * e + 4 * k + j := by
  obtain ⟨h1, h2, h3, h4, h5, h6⟩ := h
  have hc : d / 36524 - d / 146096 = e := by
    by_cases hd : d = 146096
    · rw [hd]
      omega
    · have hera : d / 146096 = 0 := Int.ediv_eq_zero_of_lt (by omega) (by omega)
      omega
  have hs : d / 1460 = 25 * e + k ∧ t ≤ 364 ∨ d / 1460 = 25 * e + k + 1 ∧ 1 ≤ t := by omega
  omega

theorem dayOfYear :
    d - (365 * (100 * e + 4 * k + j) + (100 * e + 4 * k + j) / 4 - (100 * e + 4 * k + j) / 100) = t := by
  obtain ⟨h1, h2, h3, h4, h5, h6⟩ := h
  omega

end DayOfEra

/-- The month of a day, counted from March, and the day of the month. -/
theorem monthFromMarch_bounds {t : Int} (h0 : 0 ≤ t) (h1 : t ≤ 365) :
    0 ≤ (5 * t + 2) / 153 ∧ (5 * t + 2) / 153 ≤ 11 ∧ 1 ≤ t - (153 * ((5 * t + 2) / 153) + 2) / 5 + 1 ∧
      t - (153 * ((5 * t + 2) / 153) + 2) / 5 + 1 ≤ 31 := by omega

namespace Date

/-- The first and the last day that timestamps can have. -/
def firstDay : Int := -96465292
def lastDay : Int := 95026236

/-- The date of a day in numbers of the era. -/
theorem ofDays_eq {n d e k j t : Int} (hd : (n + 719468) % 146097 = d) (h : DayOfEra d e k j t) :
    ofDays n =
      let m := (5 * t + 2) / 153
      let month := if m < 10 then m + 3 else m - 9
      let year := 100 * e + 4 * k + j + (n + 719468) / 146097 * 400
      ⟨if month ≤ 2 then year + 1 else year, month.toNat, (t - (153 * m + 2) / 5 + 1).toNat⟩ := by
  rw [ofDays]
  simp only [hd, h.yearOfEra, h.dayOfYear]

theorem ofDays_bounds (n : Int) : (ofDays n).month < 100 ∧ (ofDays n).day < 100 := by
  obtain ⟨e, k, j, t, h⟩ := exists_dayOfEra (d := (n + 719468) % 146097) (by omega) (by omega)
  have ht : 0 ≤ t ∧ t ≤ 365 := ⟨h.first, by have := h.last; omega⟩
  obtain ⟨hm0, hm1, hm2, hm3⟩ := monthFromMarch_bounds ht.1 ht.2
  rw [ofDays_eq rfl h]
  refine ⟨?_, by simp only; omega⟩
  simp only
  split <;> omega

/-- **The date of a day gives the day back.** -/
theorem toDays_ofDays (n : Int) : (ofDays n).toDays = n := by
  obtain ⟨d, hd⟩ : ∃ d, (n + 719468) % 146097 = d := ⟨_, rfl⟩
  obtain ⟨e, k, j, t, h⟩ := exists_dayOfEra (d := d) (by omega) (by omega)
  have hday := h.dayOfYear
  rw [ofDays_eq hd h]
  obtain ⟨h1, h2, h3, h4, h5, h6⟩ := h
  obtain ⟨hm0, hm1, hm2, hm3⟩ := monthFromMarch_bounds h5 (by omega)
  obtain ⟨m, hm⟩ : ∃ m, (5 * t + 2) / 153 = m := ⟨_, rfl⟩
  obtain ⟨era, hera⟩ : ∃ era, (n + 719468) / 146097 = era := ⟨_, rfl⟩
  obtain ⟨y, hy⟩ : ∃ y, 100 * e + 4 * k + j = y := ⟨_, rfl⟩
  rw [hm] at hm0 hm1 hm2 hm3
  rw [hy] at hday
  have hyb : 0 ≤ y ∧ y ≤ 399 := by omega
  have hn : n = era * 146097 + d - 719468 := by omega
  simp only [toDays, hm, hera, hy]
  by_cases hlt : m < 10
  · have hnat : ((m + 3).toNat : Int) = m + 3 := by omega
    rw [if_pos hlt, if_neg (by omega), if_neg (by omega), hnat]
    have e1 : (y + era * 400) / 400 = era := by omega
    have e2 : (y + era * 400) % 400 = y := by omega
    have e3 : (m + 3 + 9) % 12 = m := by omega
    rw [e1, e2, e3]
    omega
  · have hnat : ((m - 9).toNat : Int) = m - 9 := by omega
    rw [if_neg hlt, if_pos (by omega), if_pos (by omega), hnat]
    have e1 : (y + era * 400 + 1 - 1) / 400 = era := by omega
    have e2 : (y + era * 400 + 1 - 1) % 400 = y := by omega
    have e3 : (m - 9 + 9) % 12 = m := by omega
    rw [e1, e2, e3]
    omega

/-- A February of 29 days is one of a leap year. -/
theorem isLeapYear_of_last {d e k j t era : Int} (h : DayOfEra d e k j t) (ht : t = 365) :
    isLeapYear (100 * e + 4 * k + j + era * 400 + 1) = true := by
  obtain ⟨h1, h2, h3, h4, h5, h6⟩ := h
  have hj : j = 3 := by omega
  have hk : k ≤ 23 ∨ e = 3 := by omega
  have h4 : (100 * e + 4 * k + j + era * 400 + 1) % 4 = 0 := by omega
  have h100 : (100 * e + 4 * k + j + era * 400 + 1) % 100 ≠ 0 ∨
      (100 * e + 4 * k + j + era * 400 + 1) % 400 = 0 := by omega
  simp only [isLeapYear, Bool.and_eq_true, Bool.or_eq_true, beq_iff_eq, bne_iff_ne]
  exact ⟨h4, h100⟩

theorem firstYear_le_ofDays {n d e k j t era : Int} (hn : firstDay ≤ n) (hd : n + 719468 = era * 146097 + d)
    (h : DayOfEra d e k j t) :
    firstYear ≤ 100 * e + 4 * k + j + era * 400 ∨
      100 * e + 4 * k + j + era * 400 = firstYear - 1 ∧ 306 ≤ t := by
  have hle := h.le
  obtain ⟨h1, h2, h3, h4, h5, h6⟩ := h
  unfold firstDay at hn
  unfold firstYear
  have hera : -656 ≤ era := by omega
  by_cases he : era = -656
  · have he2 : 2 ≤ e := by omega
    omega
  · omega

theorem ofDays_le_lastYear {n d e k j t era : Int} (hn : n ≤ lastDay) (hd : n + 719468 = era * 146097 + d)
    (h : DayOfEra d e k j t) :
    100 * e + 4 * k + j + era * 400 < lastYear ∨
      100 * e + 4 * k + j + era * 400 = lastYear ∧ t ≤ 305 := by
  have hle := h.le
  obtain ⟨h1, h2, h3, h4, h5, h6⟩ := h
  unfold lastDay at hn
  unfold lastYear
  have hera : era ≤ 655 := by omega
  by_cases he : era = 655
  · have he2 : e ≤ 1 := by omega
    omega
  · omega

/-- A day is one of its month, given the month by its place in the year. -/
theorem day_le_daysInMonth {year t m : Int} {month : Nat} (h0 : 0 ≤ t) (h1 : t ≤ 365) (hm : (5 * t + 2) / 153 = m)
    (hmonth : (month : Int) = if m < 10 then m + 3 else m - 9) (hleap : t = 365 → isLeapYear year = true) :
    (t - (153 * m + 2) / 5 + 1).toNat ≤ daysInMonth year month := by
  have hm' : m < 10 ∧ (month : Int) = m + 3 ∨ 10 ≤ m ∧ (month : Int) = m - 9 := by split at hmonth <;> omega
  unfold daysInMonth
  split
  · by_cases ht : t = 365
    · rw [if_pos (hleap ht)]
      omega
    · split <;> omega
  · split <;> omega

/-- **The date of a day that timestamps can have is valid.** -/
theorem isValid_ofDays {n : Int} (h0 : firstDay ≤ n) (h1 : n ≤ lastDay) : (ofDays n).isValid = true := by
  obtain ⟨d, hd⟩ : ∃ d, (n + 719468) % 146097 = d := ⟨_, rfl⟩
  obtain ⟨era, hera⟩ : ∃ era, (n + 719468) / 146097 = era := ⟨_, rfl⟩
  obtain ⟨e, k, j, t, h⟩ := exists_dayOfEra (d := d) (by omega) (by omega)
  have hn : n + 719468 = era * 146097 + d := by omega
  have hfirst := firstYear_le_ofDays h0 hn h
  have hlast := ofDays_le_lastYear h1 hn h
  have ht : 0 ≤ t ∧ t ≤ 365 := ⟨h.first, by have := h.last; omega⟩
  obtain ⟨hm0, hm1, hm2, hm3⟩ := monthFromMarch_bounds ht.1 ht.2
  rw [ofDays_eq hd h]
  obtain ⟨m, hm⟩ : ∃ m, (5 * t + 2) / 153 = m := ⟨_, rfl⟩
  obtain ⟨y, hy⟩ : ∃ y, 100 * e + 4 * k + j + era * 400 = y := ⟨_, rfl⟩
  have hleap : t = 365 → isLeapYear (y + 1) = true := fun h365 => hy ▸ isLeapYear_of_last h h365
  rw [hm] at hm0 hm1 hm2 hm3
  rw [hy] at hfirst hlast
  simp only [hm, hera, hy, isValid, Bool.and_eq_true, decide_eq_true_eq]
  by_cases hlt : m < 10
  · have hmonth : ((m + 3).toNat : Int) = if m < 10 then m + 3 else m - 9 := by rw [if_pos hlt]; omega
    have hday := day_le_daysInMonth ht.1 ht.2 hm hmonth (fun h365 => absurd h365 (by omega) : _ → isLeapYear y = true)
    rw [if_pos hlt, if_neg (by omega)]
    refine ⟨⟨⟨⟨⟨?_, ?_⟩, ?_⟩, ?_⟩, ?_⟩, hday⟩ <;> omega
  · have hmonth : ((m - 9).toNat : Int) = if m < 10 then m + 3 else m - 9 := by rw [if_neg hlt]; omega
    have hday := day_le_daysInMonth ht.1 ht.2 hm hmonth hleap
    rw [if_neg hlt, if_pos (by omega)]
    refine ⟨⟨⟨⟨⟨?_, ?_⟩, ?_⟩, ?_⟩, ?_⟩, hday⟩ <;> omega

end Date

end HostingClient.Time
