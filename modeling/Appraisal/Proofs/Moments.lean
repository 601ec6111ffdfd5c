import Appraisal.Proofs.Calendar
import Appraisal.Proofs.Digits

/-!
# Texts of moments

A moment has a date and a time of day, which are written with fixed counts of digits but for the
fraction of a second. The order of the texts is the order of the moments.
-/

namespace Appraisal
open Decimal

namespace Timestamp

/-- The fraction of a second has digits, and nine of them with zeros at the end. -/
lemma fractionText_spec {n : Nat} (hpos : 0 < n) (h : n < 10 ^ 9) :
    ∃ digits, (fractionText n).toList = '.' :: digits ∧ digits ≠ [] ∧ digits.length ≤ 9 ∧
      (∀ c ∈ digits, c.isDigit) ∧
      digits ++ List.replicate (9 - digits.length) '0' = lastDigits 9 n := by
  have hdot : ∀ s : String, ("." ++ s).toList = '.' :: s.toList := by
    intro s
    rw [String.toList_append]
    rfl
  -- A fraction of `places` digits is the nine digits without zeros at their end.
  have hplaces : ∀ places, 0 < places → places ≤ 9 → n % 10 ^ (9 - places) = 0 →
      fractionText n = "." ++ padded places (n / 10 ^ (9 - places)) →
      ∃ digits, (fractionText n).toList = '.' :: digits ∧ digits ≠ [] ∧ digits.length ≤ 9 ∧
        (∀ c ∈ digits, c.isDigit) ∧
        digits ++ List.replicate (9 - digits.length) '0' = lastDigits 9 n := by
    intro places h0 h9 hmod htext
    have hbound : n / 10 ^ (9 - places) < 10 ^ places := by
      rw [Nat.div_lt_iff_lt_mul (Nat.pow_pos (by omega)), ← Nat.pow_add]
      rwa [show places + (9 - places) = 9 by omega]
    refine ⟨lastDigits places (n / 10 ^ (9 - places)), ?_, ?_, ?_, ?_, ?_⟩
    · rw [htext, hdot, toList_padded places h0 hbound]
    · intro hnil
      have := congrArg List.length hnil
      simp at this
      omega
    · simpa using h9
    · exact fun c hc => isDigit_of_mem_lastDigits hc
    · rw [length_lastDigits, ← lastDigits_of_dvd hmod, ← lastDigits_add]
      congr 1
      omega
  unfold fractionText at *
  rw [if_neg (by omega)] at *
  by_cases h3 : n % 1000000 = 0
  · rw [if_pos h3] at *
    exact hplaces 3 (by omega) (by omega) h3 rfl
  · rw [if_neg h3] at *
    by_cases h6 : n % 1000 = 0
    · rw [if_pos h6] at *
      exact hplaces 6 (by omega) (by omega) h6 rfl
    · rw [if_neg h6] at *
      exact hplaces 9 (by omega) (by omega) (by simp [Nat.mod_one]) (by simp)

lemma fractionText_lt {n m : Nat} (h : n < m) (hm : m < 10 ^ 9) (zone : List Char) :
    (fractionText n).toList ++ '+' :: zone < (fractionText m).toList ++ '+' :: zone := by
  obtain ⟨b, hb, -, hb9, hbdigits, hbzeros⟩ := fractionText_spec (by omega) hm
  by_cases hn : n = 0
  · subst hn
    rw [hb]
    exact List.cons_lt_cons_iff.mpr (.inl (by decide))
  · obtain ⟨a, ha, -, ha9, hadigits, hazeros⟩ := fractionText_spec (by omega) (by omega : n < 10 ^ 9)
    rw [ha, hb]
    refine List.cons_lt_cons_iff.mpr (.inr ⟨rfl, ?_⟩)
    refine trimmed_lt hadigits hbdigits (k := 9 - a.length) (l := 9 - b.length) (by omega) ?_
    rw [hazeros, hbzeros]
    exact lastDigits_lt h hm

/-- Whether the year is written with four digits and no sign. -/
def HasPlainYear (t : Timestamp) : Prop := 0 ≤ t.date.year.toInt ∧ t.date.year.toInt ≤ 9999

instance : DecidablePred HasPlainYear := fun t =>
  inferInstanceAs (Decidable (0 ≤ t.date.year.toInt ∧ t.date.year.toInt ≤ 9999))

/-- The places of a timestamp: the digits of its date and time of day, and the fraction of a second. -/
def places (t : Timestamp) (zone : List Char) : List Char :=
  lastDigits 4 t.date.year.toInt.toNat ++ '-' :: (lastDigits 2 t.date.month ++ '-' ::
    (lastDigits 2 t.date.day ++ 'T' :: (lastDigits 2 (t.second / 3600) ++ ':' ::
      (lastDigits 2 (t.second / 60 % 60) ++ ':' ::
        (lastDigits 2 (t.second % 60 + t.nanosecond / 1000000000) ++
          ((fractionText (t.nanosecond % 1000000000)).toList ++ zone))))))

lemma date_bounds (d : Date) : 1 ≤ d.month ∧ d.month ≤ 12 ∧ 1 ≤ d.day ∧ d.day ≤ 31 := by
  obtain ⟨-, -, hm1, hm12, hd1, hd⟩ := (Date.isDay_iff _ _ _).mp d.valid
  have hlength : Calendar.daysInMonth d.year.toInt d.month ≤ 31 := by
    unfold Calendar.daysInMonth
    split
    · split <;> omega
    all_goals omega
  exact ⟨hm1, hm12, hd1, by omega⟩

lemma toList_text {t : Timestamp} (h : t.HasPlainYear) (zone : String) :
    (t.text zone).toList = t.places zone.toList := by
  obtain ⟨hlow, hhigh⟩ := h
  obtain ⟨-, hmonth, -, hday⟩ := date_bounds t.date
  have hsecond := t.second.isLt
  have hnano := t.nanosecond.isLt
  have hyear : (Date.yearText t.date.year.toInt).toList = lastDigits 4 t.date.year.toInt.toNat := by
    rw [Date.yearText, if_pos ⟨hlow, hhigh⟩, toList_padded 4 (by omega) (by omega)]
  unfold text places timeText
  simp only [Date.toString, String.toList_append, hyear,
    toList_padded 2 (by omega) (by omega : t.date.month < 10 ^ 2),
    toList_padded 2 (by omega) (by omega : t.date.day < 10 ^ 2),
    toList_padded 2 (by omega) (by omega : t.second.val / 3600 < 10 ^ 2),
    toList_padded 2 (by omega) (by omega : t.second.val / 60 % 60 < 10 ^ 2),
    toList_padded 2 (by omega)
      (by omega : t.second.val % 60 + t.nanosecond.val / 1000000000 < 10 ^ 2)]
  simp [List.append_assoc]

/-- Whether one moment comes before another: on an earlier day, or later on the same day. -/
def Precedes (t u : Timestamp) : Prop :=
  t.date.Precedes u.date ∨ t.date = u.date ∧
    (t.second < u.second ∨ t.second = u.second ∧ t.nanosecond < u.nanosecond)

lemma text_lt_of_precedes {t u : Timestamp} (ht : t.HasPlainYear) (hu : u.HasPlainYear)
    (htn : t.nanosecond.val < 1000000000) (hun : u.nanosecond.val < 1000000000) (h : t.Precedes u) :
    t.text "+00:00" < u.text "+00:00" := by
  rw [String.lt_iff, toList_text ht, toList_text hu]
  obtain ⟨htlow, hthigh⟩ := ht
  obtain ⟨hulow, huhigh⟩ := hu
  obtain ⟨-, hmonth, -, hday⟩ := date_bounds u.date
  have htsecond := t.second.isLt
  have husecond := u.second.isLt
  have hstep : ∀ {c : Char} {x y : List Char}, x < y → c :: x < c :: y :=
    fun hxy => List.cons_lt_cons_iff.mpr (.inr ⟨rfl, hxy⟩)
  unfold places
  rcases h with (hyear | ⟨hyear, hmonth' | ⟨hmonth', hday'⟩⟩) | ⟨hdate, htime⟩
  · exact lastDigits_append_lt (by omega) (.inl (by omega))
  · refine lastDigits_append_lt (by omega) (.inr ⟨by rw [hyear], hstep ?_⟩)
    exact lastDigits_append_lt (by omega) (.inl hmonth')
  · refine lastDigits_append_lt (by omega) (.inr ⟨by rw [hyear], hstep ?_⟩)
    refine lastDigits_append_lt (by omega) (.inr ⟨hmonth', hstep ?_⟩)
    exact lastDigits_append_lt (by omega) (.inl hday')
  · rw [hdate]
    apply List.append_left_lt
    apply hstep
    apply List.append_left_lt
    apply hstep
    apply List.append_left_lt
    apply hstep
    have htimes : t.second.val < u.second.val ∨ t.second.val = u.second.val ∧
        t.nanosecond.val < u.nanosecond.val := by
      rcases htime with hlt | ⟨heq, hlt⟩
      · exact .inl hlt
      · exact .inr ⟨congrArg Fin.val heq, hlt⟩
    by_cases hhour : t.second.val / 3600 < u.second.val / 3600
    · exact lastDigits_append_lt (by omega) (.inl hhour)
    · refine lastDigits_append_lt (by omega) (.inr ⟨by omega, hstep ?_⟩)
      by_cases hminute : t.second.val / 60 % 60 < u.second.val / 60 % 60
      · exact lastDigits_append_lt (by omega) (.inl hminute)
      · refine lastDigits_append_lt (by omega) (.inr ⟨by omega, hstep ?_⟩)
        by_cases hsec : t.second.val % 60 < u.second.val % 60
        · exact lastDigits_append_lt (by omega) (.inl (by omega))
        · refine lastDigits_append_lt (by omega) (.inr ⟨by omega, ?_⟩)
          exact fractionText_lt (by omega) (by omega) _

end Timestamp

namespace Moment

/-- Every moment has a date, and a time of day. -/
lemma timestamp?_eq_some (t : Moment) :
    ∃ stamp, t.timestamp? = some stamp ∧ stamp.HasPlainYear ∧
      stamp.date.dayNumber = Calendar.firstDayNumber + (t.val / 86400000000000 : Nat) ∧
      stamp.second.val = t.val / 1000000000 % 86400 ∧
      stamp.nanosecond.val = t.val % 1000000000 := by
  have hbound := t.isLt
  have hday : t.val / 86400000000000 ≤ 2932896 := by omega
  obtain ⟨n, hn⟩ : ∃ n, n = Calendar.firstDayNumber + (t.val / 86400000000000 : Nat) := ⟨_, rfl⟩
  rw [← hn]
  have hlow : Calendar.daysBeforeYear 0 < n := by
    simp only [hn, Calendar.firstDayNumber, Calendar.daysBeforeYear]
    omega
  have hhigh : n ≤ Calendar.daysBeforeYear (9999 + 1) := by
    simp only [hn, Calendar.firstDayNumber, Calendar.daysBeforeYear]
    omega
  have hfirst := Calendar.daysBeforeYear_mono (a := Calendar.firstYear) (b := 0) (by decide)
  have hlast := Calendar.daysBeforeYear_mono (a := 9999 + 1) (b := Calendar.lastYear + 1) (by decide)
  obtain ⟨d, hd, hnumber, hyear⟩ :=
    Date.ofDayNumber?_eq_some (Int.lt_of_le_of_lt hfirst hlow) (Int.le_trans hhigh hlast)
  have hsecond : t.val / 1000000000 % 86400 < 86400 := Nat.mod_lt _ (by omega)
  have hnano : t.val % 1000000000 < 1000000000 := Nat.mod_lt _ (by omega)
  refine ⟨⟨d, ⟨_, hsecond⟩, ⟨t.val % 1000000000, by omega⟩, .inl hnano⟩, ?_, ?_, hnumber, rfl, rfl⟩
  · simp only [timestamp?, ← hn, hd, Option.bind_eq_bind, Option.bind_some, Timestamp.ofSeconds?]
    have hmod : ((t.val / 1000000000 % 86400 : Nat) % 86400 : Int).toNat =
        t.val / 1000000000 % 86400 := by omega
    rw [dif_pos (by omega)]
    simp only [hmod]
    rw [if_neg (by omega), if_neg (by omega)]
    rfl
  · rw [Timestamp.HasPlainYear, hyear]
    exact Calendar.yearOfDay_mem hlow hhigh

/-- The texts of moments are in the order of the moments. -/
lemma text_lt_text {t u : Moment} (h : t < u) : t.text < u.text := by
  obtain ⟨a, ha, hay, haday, hasecond, hanano⟩ := t.timestamp?_eq_some
  obtain ⟨b, hb, hby, hbday, hbsecond, hbnano⟩ := u.timestamp?_eq_some
  rw [text, text, ha, hb]
  refine Timestamp.text_lt_of_precedes hay hby (by omega) (by omega) ?_
  have hval : t.val < u.val := h
  by_cases hday : t.val / 86400000000000 < u.val / 86400000000000
  · exact .inl (Date.precedes_of_dayNumber_lt (by omega))
  · have hsame : a.date = b.date := Date.dayNumber_injective (by omega)
    refine .inr ⟨hsame, ?_⟩
    rw [Fin.lt_def, Fin.lt_def, Fin.ext_iff]
    omega

lemma text_injective {t u : Moment} (h : t.text = u.text) : t = u := by
  by_contra hne
  have hval : t.val ≠ u.val := fun heq => hne (Fin.ext heq)
  by_cases hlt : t.val < u.val
  · have htext : t.text < u.text := text_lt_text hlt
    rw [h] at htext
    exact String.lt_irrefl _ htext
  · have hgt : u < t := by
      rw [Fin.lt_def]
      omega
    have htext : u.text < t.text := text_lt_text hgt
    rw [h] at htext
    exact String.lt_irrefl _ htext

/-- A text that comes first shows a moment that comes first. -/
lemma lt_of_text_lt {t u : Moment} (h : t.text < u.text) : t < u := by
  by_contra hnot
  have hle : ¬t.val < u.val := hnot
  by_cases heq : t.val = u.val
  · have htext : t.text = u.text := congrArg text (Fin.ext heq)
    rw [htext] at h
    exact String.lt_irrefl _ h
  · have hgt : u < t := by
      rw [Fin.lt_def]
      omega
    exact String.lt_irrefl _ (String.lt_trans h (text_lt_text hgt))

end Moment
end Appraisal
