import Flowgraph.Time.Calendar
import Mathlib.Tactic.IntervalCases
import Mathlib.Tactic.Linarith
import Mathlib.Tactic.Ring

/-! Dates and day numbers determine each other, and later years have later days. The year of a day
within 400 years comes from three corrections at once; here a day has its place in a century, in a
group of four years and in a single year, and the corrections are read off that place. -/

namespace Flowgraph.Calendar

theorem daysBeforeYear_split (century : Nat) {quad year : Nat} (quads : quad ≤ 24) (years : year ≤ 3) :
    daysBeforeYear (100 * century + 4 * quad + year) = 36524 * century + 1461 * quad + 365 * year := by
  have leaps : (100 * century + 4 * quad + year) / 4 = 25 * century + quad := by omega
  have skipped : (100 * century + 4 * quad + year) / 100 = century := by omega
  rw [daysBeforeYear,leaps,skipped]
  omega

/-- The place of a day within 400 years. A year has a day numbered 365 only if it ends in a leap day. -/
theorem yearOfCycle_split {n : Nat} (inside : n < 146097) :
    ∃ century quad year day, (n - n / 1460 + n / 36524 - n / 146096) / 365 = 100 * century + 4 * quad + year ∧
      century ≤ 3 ∧ quad ≤ 24 ∧ year ≤ 3 ∧ n = 36524 * century + 1461 * quad + 365 * year + day ∧
      (day ≤ 364 ∨ day = 365 ∧ year = 3 ∧ (quad < 24 ∨ century = 3)) := by
  by_cases last : n = 146096
  · exact ⟨3,24,3,365,by rw [last],by omega,by omega,by omega,by omega,by omega⟩
  · obtain ⟨century,quad,rest,split,centuries,quads,rests,short⟩ :
        ∃ c q r, n = 36524 * c + 1461 * q + r ∧ c ≤ 3 ∧ q ≤ 24 ∧ r ≤ 1460 ∧ (q = 24 → r ≤ 1459) :=
      ⟨n / 36524,n % 36524 / 1461,n % 36524 % 1461,by omega,by omega,by omega,by omega,by omega⟩
    -- the first correction is one day too many at the very end of a group of four years
    have leaps : n / 1460 = 25 * century + quad + (quad + rest + 24 * century) / 1460 := by omega
    have skipped : n / 36524 = century := by omega
    have cycle : n / 146096 = 0 := by omega
    have year : (n - n / 1460 + n / 36524 - n / 146096) / 365 =
        100 * century + 4 * quad + (rest - (quad + rest + 24 * century) / 1460) / 365 := by omega
    refine ⟨century,quad,_,rest - 365 * ((rest - (quad + rest + 24 * century) / 1460) / 365),year,centuries,quads,?_,?_,?_⟩
    all_goals clear year leaps skipped cycle
    · omega
    · omega
    · subst split; clear last inside; omega

/-- The place of a day within a year that begins in March; months have the lengths of the calendar,
but for the last, which takes what is left. -/
theorem monthOfYear_split {n : Nat} (inside : n ≤ 365) :
    ∃ month day, (5 * n + 2) / 153 = month ∧ month ≤ 11 ∧ n = daysBeforeMonth month + day ∧
      (month < 11 → day < (if month = 1 ∨ month = 3 ∨ month = 6 ∨ month = 8 then 30 else 31)) ∧
      (month = 11 → day = n - 337) := by
  refine ⟨_,n - daysBeforeMonth ((5 * n + 2) / 153),rfl,by omega,?_,?_,?_⟩
  · simp only [daysBeforeMonth]; omega
  · intro early
    generalize chosen : (5 * n + 2) / 153 = month at early
    simp only [daysBeforeMonth]
    interval_cases month <;> simp <;> omega
  · intro late
    rw [late]; rfl

theorem monthLength_leap {year : Int} {n : Nat} (bound : n ≤ 28) (leap : n = 28 → isLeap year = true) :
    n + 1 ≤ monthLength year 2 := by
  by_cases last : n = 28
  · simp [monthLength,leap last,last]
  · simp only [monthLength,if_true]
    split <;> omega

theorem isLeap_cycle {century quad : Nat} (cycle : Int) (fourth : quad < 24 ∨ century = 3) (quads : quad ≤ 24) :
    isLeap (cycle * 400 + (100 * century + 4 * quad + 3 : Nat) + 1) = true := by
  have year : (cycle * 400 + (100 * century + 4 * quad + 3 : Nat) + 1 : Int) = 4 * (100 * cycle + 25 * century + (quad + 1)) := by
    push_cast; ring
  simp only [isLeap,Bool.and_eq_true,Bool.or_eq_true,decide_eq_true_eq]
  rw [year]
  refine ⟨by omega,?_⟩
  obtain early | final := fourth
  · left; omega
  · by_cases full : quad = 24
    · right; subst full final; omega
    · left; omega
/-- The date of a day number in parts that are counted from March. -/
theorem ofDays_split (days : Int) : ∃ (cycle : Int) (century quad year month day : Nat),
    century ≤ 3 ∧ quad ≤ 24 ∧ year ≤ 3 ∧ month ≤ 11 ∧
    days + epochOffset = cycle * 146097 + daysBeforeYear (100 * century + 4 * quad + year) + daysBeforeMonth month + day ∧
    Date.ofDays days = ⟨cycle * 400 + (100 * century + 4 * quad + year : Nat) + (if month < 10 then 0 else 1),
      if month < 10 then month + 3 else month - 9, day + 1⟩ ∧
    (month < 11 → day < (if month = 1 ∨ month = 3 ∨ month = 6 ∨ month = 8 then 30 else 31)) ∧
    (month = 11 → day ≤ 27 ∨ day = 28 ∧ year = 3 ∧ (quad < 24 ∨ century = 3)) := by
  have sum : days + epochOffset = (days + epochOffset) / 146097 * 146097 + (((days + epochOffset) % 146097).toNat : Nat) := by omega
  have inside : ((days + epochOffset) % 146097).toNat < 146097 := by omega
  simp only [Date.ofDays]
  generalize ((days + epochOffset) % 146097).toNat = n at *
  generalize (days + epochOffset) / 146097 = cycle at *
  obtain ⟨century,quad,year,dayOfYear,found,centuries,quads,years,placed,short⟩ := yearOfCycle_split inside
  obtain ⟨month,day,chosen,months,within,length,rest⟩ := monthOfYear_split (n := dayOfYear) (by clear found; omega)
  have before := daysBeforeYear_split century quads years
  have left : n - daysBeforeYear (100 * century + 4 * quad + year) = dayOfYear := by
    rw [before,placed]; exact Nat.add_sub_cancel_left ..
  have remainder : dayOfYear - daysBeforeMonth month = day := by
    rw [within]; exact Nat.add_sub_cancel_left ..
  refine ⟨cycle,century,quad,year,month,day,centuries,quads,years,months,?_,?_,length,?_⟩
  · rw [before,sum,placed,within]
    push_cast; ring
  · simp only [found,left,chosen,remainder]
    split <;> simp
  · intro february
    have rest := rest february
    clear found left sum before placed inside chosen remainder
    omega

theorem toDays_ofDays (days : Int) : (Date.ofDays days).toDays = days := by
  obtain ⟨cycle,century,quad,year,month,day,centuries,quads,years,months,sum,date,-,-⟩ := ofDays_split days
  have bound : 100 * century + 4 * quad + year < 400 := by omega
  rw [date]
  generalize 100 * century + 4 * quad + year = y at *
  have cycles : (cycle * 400 + (y : Int)) / 400 = cycle := by omega
  have within : ((cycle * 400 + (y : Int)) % 400).toNat = y := by omega
  simp only [Date.toDays]
  by_cases early : month < 10
  · have march : ¬ month + 3 ≤ 2 := by omega
    simp only [early,march,if_true,if_false,add_zero,cycles,within,Nat.add_sub_cancel]
    push_cast; linarith only [sum]
  · have january : month - 9 ≤ 2 := by omega
    have back : month - 9 + 9 = month := by omega
    simp only [early,january,if_true,if_false,add_sub_cancel_right,cycles,within,back]
    push_cast; linarith only [sum]

theorem ofDays_isValid (days : Int) : (Date.ofDays days).isValid = true := by
  obtain ⟨cycle,century,quad,year,month,day,centuries,quads,years,months,-,date,length,last⟩ := ofDays_split days
  rw [date]
  simp only [Date.isValid,Bool.and_eq_true,decide_eq_true_eq]
  refine ⟨⟨⟨by split <;> omega,by split <;> omega⟩,by omega⟩,?_⟩
  by_cases february : month = 11
  · subst february
    refine monthLength_leap (by have := last rfl; omega) ?_
    intro full
    obtain short | ⟨-,third,fourth⟩ := last rfl
    · omega
    · rw [third]
      exact isLeap_cycle cycle fourth quads
  · have bound := length (by omega)
    clear last length
    interval_cases month <;> simp [monthLength] at bound ⊢ <;> omega

/-- Days up to the January of a year, counted in one piece. -/
def daysBeforeJanuary (year : Int) : Int :=
  365 * (year - 1) + (year - 1) / 4 - (year - 1) / 100 + (year - 1) / 400 + 306 - epochOffset

theorem daysBeforeJanuary_mono {earlier later : Int} (order : earlier ≤ later) :
    daysBeforeJanuary earlier ≤ daysBeforeJanuary later := by
  simp only [daysBeforeJanuary]
  omega

theorem cycles_eq (year : Int) :
    year / 400 * 146097 + (daysBeforeYear (year % 400).toNat : Nat) = 365 * year + year / 4 - year / 100 + year / 400 := by
  obtain ⟨cycle,y,rfl,below⟩ : ∃ (c : Int) (y : Nat), year = c * 400 + y ∧ y < 400 :=
    ⟨year / 400,(year % 400).toNat,by omega,by omega⟩
  have cycles : (cycle * 400 + (y : Int)) / 400 = cycle := by omega
  have within : ((cycle * 400 + (y : Int)) % 400).toNat = y := by omega
  have fourths : (cycle * 400 + (y : Int)) / 4 = 100 * cycle + (y / 4 : Nat) := by omega
  have centuries : (cycle * 400 + (y : Int)) / 100 = 4 * cycle + (y / 100 : Nat) := by omega
  rw [cycles,within,fourths,centuries,daysBeforeYear]
  omega

theorem toDays_between {d : Date} (valid : d.isValid = true) :
    daysBeforeJanuary d.year ≤ d.toDays ∧ d.toDays < daysBeforeJanuary (d.year + 1) := by
  obtain ⟨year,month,day⟩ := d
  simp only [Date.isValid,Bool.and_eq_true,decide_eq_true_eq] at valid
  obtain ⟨⟨⟨first,last⟩,positive⟩,length⟩ := valid
  have short : day ≤ 31 := by
    refine length.trans ?_
    simp only [monthLength]
    split <;> (try split) <;> omega
  by_cases early : month ≤ 2
  · have counted : (Date.mk year month day).toDays = daysBeforeJanuary year - 306 + daysBeforeMonth (month + 9) + day - 1 := by
      simp only [Date.toDays,early,if_true,daysBeforeJanuary]
      rw [cycles_eq]; ring
    have next : daysBeforeJanuary year + 365 ≤ daysBeforeJanuary (year + 1) := by
      simp only [daysBeforeJanuary]; omega
    rw [counted]
    simp only [daysBeforeMonth]
    omega
  · have counted : (Date.mk year month day).toDays = daysBeforeJanuary (year + 1) - 306 + daysBeforeMonth (month - 3) + day - 1 := by
      simp only [Date.toDays,early,if_false,daysBeforeJanuary]
      rw [cycles_eq]; ring_nf
    have next : daysBeforeJanuary year + 365 ≤ daysBeforeJanuary (year + 1) := by
      simp only [daysBeforeJanuary]; omega
    rw [counted]
    simp only [daysBeforeMonth]
    clear counted
    omega

theorem toDays_lt {d e : Date} (first : d.isValid = true) (second : e.isValid = true) (order : d.year < e.year) :
    d.toDays < e.toDays :=
  calc d.toDays < daysBeforeJanuary (d.year + 1) := (toDays_between first).2
    _ ≤ daysBeforeJanuary e.year := daysBeforeJanuary_mono order
    _ ≤ e.toDays := (toDays_between second).1

end Flowgraph.Calendar
