import Appraisal.Calendar.Moment
import Mathlib.Data.List.Basic
import Mathlib.Tactic.Ring

/-!
# Day numbers

Every day number belongs to one date, and the order of the day numbers is the order of year, month and
day.
-/

namespace Appraisal

namespace Calendar

lemma daysBeforeYear_mono {a b : Int} (h : a ≤ b) : daysBeforeYear a ≤ daysBeforeYear b := by
  simp only [daysBeforeYear]
  omega

/-- The year of a day begins before the day and ends with it or after it. -/
lemma yearOfDay_spec (n : Int) :
    daysBeforeYear (yearOfDay n) < n ∧ n ≤ daysBeforeYear (yearOfDay n + 1) := by
  have hlow : daysBeforeYear (400 * n / 146097 + 1 - 1) < n := by
    simp only [daysBeforeYear]
    omega
  have hhigh : n ≤ daysBeforeYear (400 * n / 146097 + 1 + 2) := by
    simp only [daysBeforeYear]
    omega
  unfold yearOfDay
  simp only
  split
  · rename_i h
    exact ⟨h, by simpa [add_assoc] using hhigh⟩
  · rename_i h
    split
    · rename_i h'
      exact ⟨h', by omega⟩
    · rename_i h'
      refine ⟨hlow, ?_⟩
      rw [sub_add_cancel]
      omega

/-- A day after the beginning of year `a` and not after the end of year `b` belongs to a year from `a`
to `b`. -/
lemma yearOfDay_mem {a b n : Int} (hlow : daysBeforeYear a < n) (hhigh : n ≤ daysBeforeYear (b + 1)) :
    a ≤ yearOfDay n ∧ yearOfDay n ≤ b := by
  have hspec := yearOfDay_spec n
  constructor
  · by_contra hlt
    have hmono : daysBeforeYear (yearOfDay n + 1) ≤ daysBeforeYear a :=
      daysBeforeYear_mono (by omega)
    omega
  · by_contra hlt
    have hmono : daysBeforeYear (b + 1) ≤ daysBeforeYear (yearOfDay n) :=
      daysBeforeYear_mono (by omega)
    omega

lemma daysBeforeMonth_succ (year : Int) {month : Nat} (h : 1 ≤ month) :
    daysBeforeMonth year (month + 1) = daysBeforeMonth year month + daysInMonth year month := by
  obtain ⟨m, rfl⟩ : ∃ m, month = m + 1 := ⟨month - 1, by omega⟩
  have hrange : List.range' 1 (m + 1) = List.range' 1 m ++ [m + 1] := by
    rw [List.range'_concat, one_mul, add_comm]
  simp only [daysBeforeMonth, Nat.add_sub_cancel]
  rw [hrange, List.foldl_append]
  rfl

lemma daysBeforeMonth_mono (year : Int) {a b : Nat} (ha : 1 ≤ a) (h : a ≤ b) :
    daysBeforeMonth year a ≤ daysBeforeMonth year b := by
  induction b, h using Nat.le_induction with
  | base => exact le_refl _
  | succ b hab ih =>
    rw [daysBeforeMonth_succ year (by omega)]
    omega

lemma isLeapYear_iff (year : Int) :
    isLeapYear year = true ↔ year % 4 = 0 ∧ (year % 100 ≠ 0 ∨ year % 400 = 0) := by
  simp [isLeapYear]

/-- The months of a year make up the year. -/
lemma daysBeforeYear_succ (year : Int) :
    daysBeforeYear (year + 1) = daysBeforeYear year + (daysBeforeMonth year 13 : Nat) := by
  by_cases h : isLeapYear year = true
  · have hmonths : daysBeforeMonth year 13 = 366 := by
      simp [daysBeforeMonth, List.range', daysInMonth, h]
    rw [isLeapYear_iff] at h
    rw [hmonths]
    simp only [daysBeforeYear]
    omega
  · have hmonths : daysBeforeMonth year 13 = 365 := by
      simp [daysBeforeMonth, List.range', daysInMonth, h]
    rw [isLeapYear_iff] at h
    rw [hmonths]
    simp only [daysBeforeYear]
    omega

/-- Counting the members up to which a predicate holds finds the last of them. -/
lemma length_filter_range' {p : Nat → Bool} (hp : ∀ a b, 1 ≤ a → a ≤ b → p b → p a) (count : Nat) :
    ∀ m, 1 ≤ m → m ≤ count →
      (p m = true ↔ m ≤ ((List.range' 1 count).filter p).length) := by
  induction count with
  | zero =>
    intro m hm hle
    omega
  | succ count ih =>
    intro m hm hle
    rw [List.range'_concat, one_mul, List.filter_append, List.length_append]
    have hbound : ((List.range' 1 count).filter p).length ≤ count := by
      simpa using List.length_filter_le p (List.range' 1 count)
    -- If the last member passes, all do; if not, it leaves the count as it is.
    cases hlast : p (1 + count) with
    | true =>
      have hall : ∀ k ∈ List.range' 1 count, p k = true := by
        intro k hk
        rw [List.mem_range'_1] at hk
        exact hp k (1 + count) hk.1 (by omega) hlast
      have hlength : ((List.range' 1 count).filter p).length = count := by
        rw [List.filter_eq_self.mpr hall, List.length_range']
      have hm : p m = true := hp m (1 + count) hm (by omega) hlast
      simp [hlast, hlength, hm]
      omega
    | false =>
      have hnil : [1 + count].filter p = [] := by simp [hlast]
      rw [hnil, List.length_nil, Nat.add_zero]
      by_cases hmc : m ≤ count
      · exact ih m hm hmc
      · have hmeq : m = 1 + count := by omega
        rw [hmeq, hlast]
        constructor
        · intro h
          cases h
        · intro h
          omega

/-- The month of a day begins before the day and ends with it or after it. -/
lemma monthOfDay_spec (year : Int) {n : Nat} (hpos : 0 < n) (hle : n ≤ daysBeforeMonth year 13) :
    1 ≤ monthOfDay year n ∧ monthOfDay year n ≤ 12 ∧
      daysBeforeMonth year (monthOfDay year n) < n ∧
      n ≤ daysBeforeMonth year (monthOfDay year n) + daysInMonth year (monthOfDay year n) := by
  have hiff := length_filter_range' (p := fun month => decide (daysBeforeMonth year month < n))
    (fun a b ha hab h => by
      have := daysBeforeMonth_mono year ha hab
      simp only [decide_eq_true_eq] at h ⊢
      omega) 12
  simp only [decide_eq_true_eq] at hiff
  change ∀ m, 1 ≤ m → m ≤ 12 → (daysBeforeMonth year m < n ↔ m ≤ monthOfDay year n) at hiff
  have hone : 1 ≤ monthOfDay year n := (hiff 1 (by omega) (by omega)).mp hpos
  have htwelve : monthOfDay year n ≤ 12 := by
    have := List.length_filter_le (fun month => decide (daysBeforeMonth year month < n)) (List.range' 1 12)
    simpa [monthOfDay] using this
  refine ⟨hone, htwelve, (hiff _ hone htwelve).mpr le_rfl, ?_⟩
  rw [← daysBeforeMonth_succ year hone]
  by_cases hlast : monthOfDay year n = 12
  · rw [hlast]
    exact hle
  · have hnext := (hiff (monthOfDay year n + 1) (by omega) (by omega)).not.mpr (by omega)
    omega

end Calendar

namespace Date
open Calendar

lemma isDay_iff (year : Int) (month day : Nat) :
    isDay year month day = true ↔ firstYear ≤ year ∧ year ≤ lastYear ∧ 1 ≤ month ∧ month ≤ 12 ∧
      1 ≤ day ∧ day ≤ daysInMonth year month := by
  simp [isDay, and_assoc]

lemma toInt_ofInt_year {year : Int} (hlow : firstYear ≤ year) (hhigh : year ≤ lastYear) :
    (Int32.ofInt year).toInt = year := by
  unfold firstYear at hlow
  unfold lastYear at hhigh
  exact Int32.toInt_ofInt_of_le (by omega) (by omega)

/-- The calendar has every day within its years and months. -/
lemma of?_eq_some {year : Int} {month day : Nat} (h : isDay year month day = true) :
    ∃ d, of? year month day = some d ∧ d.year.toInt = year ∧ d.month = month ∧ d.day = day := by
  have hbounds := (isDay_iff year month day).mp h
  have hyear := toInt_ofInt_year hbounds.1 hbounds.2.1
  have hd : isDay (Int32.ofInt year).toInt month day = true ∧ (Int32.ofInt year).toInt = year := by
    rw [hyear]
    exact ⟨h, rfl⟩
  exact ⟨⟨Int32.ofInt year, month, day, hd.1⟩, dif_pos hd, hyear, rfl, rfl⟩

/-- Every day number has its date. -/
lemma ofDayNumber?_eq_some {n : Int} (hlow : daysBeforeYear firstYear < n)
    (hhigh : n ≤ daysBeforeYear (lastYear + 1)) :
    ∃ d, ofDayNumber? n = some d ∧ d.dayNumber = n ∧ d.year.toInt = yearOfDay n := by
  have hspec := yearOfDay_spec n
  obtain ⟨hfirst, hlast⟩ := yearOfDay_mem hlow hhigh
  have hlength := daysBeforeYear_succ (yearOfDay n)
  have hle : (n - daysBeforeYear (yearOfDay n)).toNat ≤ daysBeforeMonth (yearOfDay n) 13 := by omega
  obtain ⟨hm1, hm12, hbefore, hwithin⟩ :=
    monthOfDay_spec (yearOfDay n) (n := (n - daysBeforeYear (yearOfDay n)).toNat) (by omega) hle
  obtain ⟨d, hd, hy, hm, hday⟩ := of?_eq_some ((isDay_iff (yearOfDay n) _
    ((n - daysBeforeYear (yearOfDay n)).toNat -
      daysBeforeMonth (yearOfDay n) (monthOfDay (yearOfDay n) (n - daysBeforeYear (yearOfDay n)).toNat))).mpr
    ⟨hfirst, hlast, hm1, hm12, by omega, by omega⟩)
  refine ⟨d, hd, ?_, hy⟩
  rw [dayNumber, hy, hm, hday]
  omega

/-- Whether year, month and day of `d` come before those of `e`. -/
def Precedes (d e : Date) : Prop :=
  d.year.toInt < e.year.toInt ∨ d.year.toInt = e.year.toInt ∧
    (d.month < e.month ∨ d.month = e.month ∧ d.day < e.day)

lemma dayNumber_lt_of_precedes {d e : Date} (h : d.Precedes e) : d.dayNumber < e.dayNumber := by
  obtain ⟨-, -, hd1, hd12, hdday, hdmost⟩ := (isDay_iff _ _ _).mp d.valid
  obtain ⟨-, -, he1, he12, heday, hemost⟩ := (isDay_iff _ _ _).mp e.valid
  have hdmonth := daysBeforeMonth_succ d.year.toInt hd1
  unfold dayNumber
  rcases h with hyear | ⟨hyear, hmonth | ⟨hmonth, hday⟩⟩
  · have hmono := daysBeforeYear_mono (a := d.year.toInt + 1) (b := e.year.toInt) (by omega)
    have hlength := daysBeforeYear_succ d.year.toInt
    have hwithin := daysBeforeMonth_mono d.year.toInt (a := d.month + 1) (b := 13) (by omega) (by omega)
    omega
  · have hwithin := daysBeforeMonth_mono d.year.toInt (a := d.month + 1) (b := e.month) (by omega) (by omega)
    rw [hyear] at hdmonth hwithin hdmost ⊢
    omega
  · rw [hyear, hmonth]
    omega

lemma precedes_trichotomy (d e : Date) : d.Precedes e ∨ d = e ∨ e.Precedes d := by
  by_cases hyear : d.year.toInt = e.year.toInt
  · by_cases hmonth : d.month = e.month
    · by_cases hday : d.day = e.day
      · right
        left
        cases d
        cases e
        simp_all [Int32.toInt_inj]
      · unfold Precedes
        omega
    · unfold Precedes
      omega
  · unfold Precedes
    omega

/-- The order of the day numbers is the order of year, month and day. -/
lemma precedes_of_dayNumber_lt {d e : Date} (h : d.dayNumber < e.dayNumber) : d.Precedes e := by
  rcases precedes_trichotomy d e with hbefore | rfl | hafter
  · exact hbefore
  · omega
  · have := dayNumber_lt_of_precedes hafter
    omega

/-- A day number belongs to one date. -/
lemma dayNumber_injective {d e : Date} (h : d.dayNumber = e.dayNumber) : d = e := by
  rcases precedes_trichotomy d e with hbefore | heq | hafter
  · have := dayNumber_lt_of_precedes hbefore
    omega
  · exact heq
  · have := dayNumber_lt_of_precedes hafter
    omega

lemma precedes_iff {d e : Date} : d.Precedes e ↔ d.dayNumber < e.dayNumber :=
  ⟨dayNumber_lt_of_precedes, precedes_of_dayNumber_lt⟩

/-- Every date lies within the years of the calendar. -/
lemma dayNumber_mem (d : Date) :
    daysBeforeYear firstYear < d.dayNumber ∧ d.dayNumber ≤ daysBeforeYear (lastYear + 1) := by
  obtain ⟨hfirst, hlast, hm1, hm12, hday, hmost⟩ := (isDay_iff _ _ _).mp d.valid
  have hlow := daysBeforeYear_mono hfirst
  have hhigh := daysBeforeYear_mono (show d.year.toInt + 1 ≤ lastYear + 1 by omega)
  have hmonth := daysBeforeMonth_succ d.year.toInt hm1
  have hwithin := daysBeforeMonth_mono d.year.toInt (a := d.month + 1) (b := 13) (by omega) (by omega)
  have hlength := daysBeforeYear_succ d.year.toInt
  unfold dayNumber
  omega

/-- A difference of dates fits into a machine number. -/
lemma toInt_daysSince (d start : Date) : (Int64.ofInt (d.daysSince start)).toInt = d.daysSince start := by
  have hd := d.dayNumber_mem
  have hstart := start.dayNumber_mem
  unfold daysSince
  simp only [daysBeforeYear, firstYear, lastYear] at hd hstart
  exact Int64.toInt_ofInt_of_le (by omega) (by omega)

lemma daysSince_ne_minValue (d start : Date) : Int64.ofInt (d.daysSince start) ≠ Int64.minValue := by
  have hd := d.dayNumber_mem
  have hstart := start.dayNumber_mem
  rw [ne_eq, ← Int64.toInt_inj, toInt_daysSince]
  change ¬ d.daysSince start = -9223372036854775808
  unfold daysSince
  simp only [daysBeforeYear, firstYear, lastYear] at hd hstart
  omega

lemma daysSince_neg_iff (d start : Date) : Int64.ofInt (d.daysSince start) < 0 ↔ d.Precedes start := by
  rw [Int64.lt_iff_toInt_lt, toInt_daysSince, precedes_iff, daysSince]
  change _ < (0 : Int) ↔ _
  omega

end Date
end Appraisal
