import ImageForge.Time.Calendar

/-! Dates and days since 1970-01-01. The date of a day leads back to the day. -/
namespace ImageForge.Time

variable {doe doy : Int}

/-- The year of an era in which a day of the era lies. -/
def yearOfEra (doe : Int) : Int := (doe - doe / 1460 + doe / 36524 - doe / 146096) / 365

def daysBefore (yoe : Int) : Int := 365 * yoe + yoe / 4 - yoe / 100

/-- The month of a year that begins in March, in which a day of the year lies. -/
def monthOfYear (doy : Int) : Int := (5 * doy + 2) / 153

def daysBeforeMonth (mp : Int) : Int := (153 * mp + 2) / 5

theorem yearOfEra_bounds (h0 : 0 ≤ doe) (h1 : doe < 146097) :
    0 ≤ yearOfEra doe ∧ yearOfEra doe ≤ 399 := by
  unfold yearOfEra
  omega

theorem dayOfYear_bounds (h0 : 0 ≤ doe) (h1 : doe < 146097) :
    daysBefore (yearOfEra doe) ≤ doe ∧ doe ≤ daysBefore (yearOfEra doe) + 365 := by
  obtain ⟨hlow, hhigh⟩ := yearOfEra_bounds h0 h1
  have hcentury : doe / 36524 = 0 ∨ doe / 36524 = 1 ∨ doe / 36524 = 2 ∨ doe / 36524 = 3 ∨
      doe / 36524 = 4 := by omega
  have hyears : yearOfEra doe / 100 = 0 ∨ yearOfEra doe / 100 = 1 ∨ yearOfEra doe / 100 = 2 ∨
      yearOfEra doe / 100 = 3 := by omega
  have hyear : yearOfEra doe = (doe - doe / 1460 + doe / 36524 - doe / 146096) / 365 := rfl
  unfold daysBefore
  generalize yearOfEra doe = yoe at *
  -- Within one century of days and one of years all is linear.
  obtain h | h | h | h | h := hcentury <;> obtain h' | h' | h' | h' := hyears <;> omega

theorem dayOfMonth_bounds (h0 : 0 ≤ doy) (h1 : doy ≤ 365) :
    0 ≤ monthOfYear doy ∧ monthOfYear doy ≤ 11 ∧ daysBeforeMonth (monthOfYear doy) ≤ doy := by
  unfold monthOfYear daysBeforeMonth
  omega

/-- A date is as far from the start of its era as its year, its month and its day are. -/
theorem Date.toDays_mk {era yoe mp day : Int} (hlow : 0 ≤ yoe) (hhigh : yoe ≤ 399) (hmp : 0 ≤ mp)
    (hmp' : mp ≤ 11) (hday : 0 ≤ day) :
    let month := (if mp < 10 then mp + 3 else mp - 9).toNat
    Date.toDays ⟨if month ≤ 2 then yoe + era * 400 + 1 else yoe + era * 400, month,
        (day + 1).toNat⟩ =
      era * 146097 + (daysBefore yoe + daysBeforeMonth mp + day) - 719468 := by
  intro month
  have hyear : (if month ≤ 2 then (if month ≤ 2 then yoe + era * 400 + 1 else yoe + era * 400) - 1
      else if month ≤ 2 then yoe + era * 400 + 1 else yoe + era * 400) = yoe + era * 400 := by
    split <;> omega
  have hera : Int.fdiv (yoe + era * 400) 400 = era := by
    rw [Int.fdiv_eq_ediv_of_nonneg _ (by decide)]
    omega
  have hmonth : (if month > 2 then (month : Int) - 3 else (month : Int) + 9) = mp := by
    simp only [month]
    split <;> omega
  simp only [Date.toDays, hyear, hera, hmonth, daysBefore, daysBeforeMonth]
  omega

theorem Date.toDays_ofDays (days : Int) : (Date.ofDays days).toDays = days := by
  let era := Int.fdiv (days + 719468) 146097
  let doe := days + 719468 - era * 146097
  let doy := doe - daysBefore (yearOfEra doe)
  have hdoe : 0 ≤ doe ∧ doe < 146097 := by
    simp only [doe, era, Int.fdiv_eq_ediv_of_nonneg (days + 719468) (b := 146097) (by decide)]
    omega
  obtain ⟨hlow, hhigh⟩ := yearOfEra_bounds hdoe.1 hdoe.2
  obtain ⟨hstart, hend⟩ := dayOfYear_bounds hdoe.1 hdoe.2
  obtain ⟨hmp, hmp', hmonth⟩ : 0 ≤ monthOfYear doy ∧ monthOfYear doy ≤ 11 ∧
      daysBeforeMonth (monthOfYear doy) ≤ doy := dayOfMonth_bounds (by omega) (by omega)
  calc (Date.ofDays days).toDays
      = era * 146097 + (daysBefore (yearOfEra doe) + daysBeforeMonth (monthOfYear doy) +
          (doy - daysBeforeMonth (monthOfYear doy))) - 719468 :=
        Date.toDays_mk hlow hhigh hmp hmp' (by omega)
    _ = days := by omega

end ImageForge.Time
