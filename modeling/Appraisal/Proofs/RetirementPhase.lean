import Appraisal.Double
import Appraisal.Evidence.Build
import Appraisal.Proofs.Calendar
import Appraisal.Proofs.CardContents

/-!
# Retirement in the analysis and in the price

The availability analysis publishes a phase of retirement, and the price is based on a status of
retirement. Both are read from the same evidence, each by rules of its own. They agree, except on sets that
are retired by their age alone and on sets whose catalog entry names only a day to come. A set whose years cannot be
counted has a phase and no status.
-/

namespace Appraisal
open Scorecard

namespace Availability

/-- The phase that the analysis publishes. -/
def phase? (α : Type) [Arithmetic α] [NumberText α] (e : AvailabilityEvidence) (currentYear : Int32) :
    Checked (Option String) :=
  (score? e currentYear : Checked (Option (Score α))).map fun s => s.bind (·.dataText? "retirement_phase")

section Published
variable {α : Type} [Arithmetic α] [NumberText α] {e : AvailabilityEvidence} {currentYear : Int32}

lemma points_card (timingReason : String) :
    (card e currentYear timingReason : Scorecard α).points =
      ((timing e currentYear).days?.elim [] fun days => [("days_until_retirement", .int days.toInt)]) ++
        ("retirement_phase", .string (timing e currentYear).phase) ::
        (e.stock.elim [] fun stock => [("stock", .nat stock.toNat)]) := by
  cases hscore : ((timing e currentYear).score? : Option α) <;> cases hstatus : e.listingStatus <;>
    simp [card, slotEntries, Timing.entries, stockEntries, statusEntries, hscore, hstatus]

/-- The score has the data points of the card; the factor for the price is entered under a key of its own. -/
lemma dataPoint_of_score? {s : Score α} (h : score? e currentYear = .value (some s)) (key : String)
    (hkey : key ≠ "scarcity_multiplier") :
    ∃ timingReason, s.dataPoints.get? key = (card e currentYear timingReason : Scorecard α).dataPoints.get? key := by
  obtain ⟨timingReason, -, hcard⟩ := score?_eq_value_iff.mp h
  obtain ⟨bare, hbare, rfl⟩ := Option.map_eq_some_iff.mp hcard
  refine ⟨timingReason, ?_⟩
  unfold withScarcity
  rw [Keyed.get?_insert_of_ne _ _ hkey, dataPoints_of_toScore? hbare]

lemma phase_of_score? {s : Score α} (h : score? e currentYear = .value (some s)) :
    s.dataText? "retirement_phase" = some (timing e currentYear).phase := by
  obtain ⟨timingReason, hs⟩ := dataPoint_of_score? h "retirement_phase" (by decide)
  have hpoint : (card e currentYear timingReason : Scorecard α).dataPoints.get? "retirement_phase" =
      some (.string (timing e currentYear).phase) := by
    refine get?_dataPoints ?_ ?_
    · simp [points_card]
    · intro v hv
      cases hdays : (timing e currentYear).days? <;> cases hstock : e.stock <;>
        simpa [points_card, hdays, hstock] using hv
  unfold Score.dataText?
  rw [hs, hpoint]
  rfl

lemma daysLeft_of_score? {s : Score α} (h : score? e currentYear = .value (some s)) :
    s.dataPoints.get? "days_until_retirement" =
      (timing e currentYear).days?.map fun days => .int days.toInt := by
  obtain ⟨timingReason, hs⟩ := dataPoint_of_score? h "days_until_retirement" (by decide)
  rw [hs]
  cases hdays : (timing e currentYear).days? with
  | none =>
    refine (Keyed.get?_ofList_eq_none_iff (points _) _).mpr ?_
    cases hstock : e.stock <;> simp [points_card, hdays, hstock]
  | some days =>
    refine get?_dataPoints ?_ ?_
    · simp [points_card, hdays]
    · intro v hv
      cases hstock : e.stock <;> simpa [points_card, hdays, hstock] using hv

/-- A timing that is known is scored, unless the analysis is aborted. -/
lemma exists_score? (hended : (score? e currentYear : Checked (Option (Score α))) ≠ .aborted) (htimed : isTimed e) :
    ∃ s : Score α, score? e currentYear = .value (some s) := by
  obtain ⟨score, hscore⟩ := Option.isSome_iff_exists.mp ((isSome_score? (α := α) e currentYear).trans htimed)
  obtain ⟨found, hfound⟩ := Checked.exists_value hended
  obtain ⟨timingReason, -, hcard⟩ := score?_eq_value_iff.mp hfound
  have hpart : ∃ part, Entry.component part ∈ (card e currentYear timingReason : Scorecard α) := by
    simp only [card, Timing.entries, given, hscore, List.mem_append, Option.elim_some, List.mem_singleton,
      Entry.component.injEq]
    exact ⟨_, .inl (.inl (.inr (.inl (.inr rfl))))⟩
  obtain ⟨part, hpart⟩ := hpart
  obtain ⟨bare, hbare⟩ := exists_toScore? hpart formula
  rw [hbare] at hcard
  exact ⟨withScarcity bare, by rw [hfound, ← hcard]; rfl⟩

/-- A phase that is known is published exactly when the timing has it. -/
lemma dataText?_phase_iff {found : Option (Score α)} (hfound : score? e currentYear = .value found) {phase : String}
    (h : phase ≠ "unknown") :
    found.bind (·.dataText? "retirement_phase") = some phase ↔ (timing e currentYear).phase = phase := by
  constructor
  · intro hphase
    obtain ⟨s, rfl, htext⟩ := Option.bind_eq_some_iff.mp hphase
    rw [phase_of_score? hfound] at htext
    exact Option.some.inj htext
  · rintro rfl
    have htimed : isTimed e := by
      rw [← isSome_score? (α := α) e currentYear]
      cases ht : timing e currentYear with
      | unknown => exact absurd (by rw [ht]; rfl) h
      | _ => rfl
    obtain ⟨s, hs⟩ := exists_score? (α := α) (by rw [hfound]; exact nofun) htimed
    obtain rfl := Checked.value.inj (hfound.symm.trans hs)
    rw [Option.bind_some, phase_of_score? hs]

lemma phase?_eq_some_iff (hended : (score? e currentYear : Checked (Option (Score α))) ≠ .aborted) {phase : String}
    (h : phase ≠ "unknown") :
    phase? α e currentYear = .value (some phase) ↔ (timing e currentYear).phase = phase := by
  obtain ⟨found, hfound⟩ := Checked.exists_value hended
  rw [phase?, hfound, Checked.map_value, Checked.value.injEq]
  exact dataText?_phase_iff hfound h

end Published

end Availability

section Standing
open Availability
variable {e : AvailabilityEvidence} {currentYear retirementAge : Int32}

lemma phase_eq_retired_iff :
    (timing e currentYear).phase = "retired" ↔
      e.yearRetired.any (· ≤ currentYear) ∨ e.yearRetired = none ∧ e.daysUntilRetirement.any (· < 0) := by
  unfold timing
  cases e.yearRetired with
  | some year =>
    by_cases hle : year ≤ currentYear
    · simp [hle, Timing.phase]
    · cases e.daysUntilRetirement.filter (0 ≤ ·) <;> simp [hle, Timing.phase]
  | none =>
    cases e.daysUntilRetirement with
    | some days => by_cases hpassed : days < 0 <;> simp [hpassed, Timing.phase]
    | none => rcases e.retiringSoon with _ | _ | _ <;> simp [Timing.phase]

lemma phase_eq_preRetirement_iff :
    (timing e currentYear).phase = "pre_retirement" ↔
      e.yearRetired.any (currentYear < ·) ∨ e.yearRetired = none ∧
        (e.daysUntilRetirement.any (0 ≤ ·) ∨
          e.daysUntilRetirement = none ∧ e.retiringSoon = some true) := by
  unfold timing
  cases e.yearRetired with
  | some year =>
    rcases Int32.le_or_lt year currentYear with hle | hlt
    · simp [hle, Int32.not_lt.mpr hle, Timing.phase]
    · cases e.daysUntilRetirement.filter (0 ≤ ·) <;> simp [hlt, Int32.not_le.mpr hlt, Timing.phase]
  | none =>
    cases e.daysUntilRetirement with
    | some days =>
      rcases Int64.le_or_lt 0 days with hcoming | hpassed
      · simp [hcoming, Int64.not_lt.mpr hcoming, Timing.phase]
      · simp [hpassed, Int64.not_le.mpr hpassed, Timing.phase]
    | none => rcases e.retiringSoon with _ | _ | _ <;> simp [Timing.phase]

/-- A standing tells that a set is retired, or that it is to retire, exactly when the catalog or the age of the set
does. -/
lemma status_of_standing {standing : RetirementStanding}
    (h : retirementStanding e currentYear retirementAge = .value standing) :
    (standing.status = .retired ↔ e.yearRetired.any (· ≤ currentYear) ∨ e.yearRetired = none ∧
      (e.IsPassed ∨ standing = ⟨.retired, none⟩ ∧
        e.yearReleased.any fun year => retirementAge.toInt < currentYear.toInt - year.toInt)) ∧
    (standing.status = .retiringSoon ↔ e.yearRetired.any (currentYear < ·) ∨
      e.yearRetired = none ∧ ¬ e.IsPassed ∧ e.retiringSoon = some true) := by
  cases hyear : e.yearRetired with
  | some year =>
    by_cases hle : year ≤ currentYear
    · rw [retirementStanding_of_settled hyear hle] at h
      obtain ⟨years, -, rfl⟩ := Checked.map_eq_value_iff.mp h
      simp [hle, Int32.not_lt.mpr hle]
    · rw [retirementStanding_of_scheduled hyear hle] at h
      cases h
      simp [hle, Int32.not_le.mp hle]
  | none =>
    by_cases hpassed : e.IsPassed
    · rw [retirementStanding_of_passed hyear hpassed] at h
      cases hcounted : e.retirementYear with
      | none =>
        rw [hcounted] at h
        cases h
        simp [hpassed]
      | some year =>
        rw [hcounted] at h
        obtain ⟨years, -, rfl⟩ := Checked.map_eq_value_iff.mp h
        simp [hpassed]
    · by_cases hflag : e.retiringSoon = some true
      · rw [retirementStanding_of_flagged hyear hpassed hflag] at h
        cases h
        simp [hpassed, hflag]
      · rw [retirementStanding_of_untold hyear hpassed hflag] at h
        cases hreleased : e.yearReleased with
        | none =>
          rw [hreleased] at h
          cases h
          simp [hpassed, hflag]
        | some year =>
          rw [hreleased] at h
          obtain ⟨age, hage, rfl⟩ := Checked.map_eq_value_iff.mp h
          have hold : retirementAge < age ↔ retirementAge.toInt < currentYear.toInt - year.toInt := by
            rw [Int32.lt_iff_toInt_lt, Checked.sub_eq_value_iff.mp hage]
          by_cases hlt : retirementAge < age
          · simp [hpassed, hflag, hlt, hold.mp hlt]
          · simp [hpassed, hflag, hlt]

/-- A set is priced as retired when it is told to be, and else only by its age. It is priced as retiring soon when it
is told to be before its retirement, unless a day to come is all that tells so. -/
lemma standing_iff_phase {standing : RetirementStanding}
    (h : retirementStanding e currentYear retirementAge = .value standing) :
    (standing.status = .retired ↔ (timing e currentYear).phase = "retired" ∨
      standing = ⟨.retired, none⟩ ∧
        e.yearReleased.any fun year => retirementAge.toInt < currentYear.toInt - year.toInt) ∧
    (standing.status = .retiringSoon ↔ (timing e currentYear).phase = "pre_retirement" ∧
      ¬ (e.yearRetired = none ∧ e.daysUntilRetirement.any (0 ≤ ·) ∧ e.retiringSoon ≠ some true)) := by
  obtain ⟨hretired, hsoon⟩ := status_of_standing h
  constructor
  · rw [phase_eq_retired_iff]
    constructor
    · intro hstatus
      rcases hretired.mp hstatus with hyear | ⟨hyear, hpassed | hage⟩
      · exact .inl (.inl hyear)
      · exact .inl (.inr ⟨hyear, hpassed⟩)
      · exact .inr hage
    · rintro ((hyear | ⟨hyear, hpassed⟩) | ⟨hstanding, -⟩)
      · exact hretired.mpr (.inl hyear)
      · exact hretired.mpr (.inr ⟨hyear, .inl hpassed⟩)
      · rw [hstanding]
  · rw [hsoon, phase_eq_preRetirement_iff]
    unfold AvailabilityEvidence.IsPassed
    cases e.yearRetired with
    | some year => simp
    | none =>
      cases e.daysUntilRetirement with
      | none => simp
      | some days =>
        simp only [Option.any_some, decide_eq_true_eq, Int64.not_lt]
        tauto

end Standing

/-- Whether a day to come is all that an entry tells about the retirement of its set. -/
def CatalogEntry.NamesOnlyDay (entry : CatalogEntry) (asOf : Date) : Prop :=
  entry.yearRetired = none ∧ entry.retiringSoon = false ∧
    ∃ day, entry.expectedRetirement = some day ∧ ¬ day.Precedes asOf

section Records
open Availability
variable {α : Type}

lemma ofRecords_namesOnlyDay {product : Product α} {entry : Option CatalogEntry} {asOf : Date}
    {e : AvailabilityEvidence} (he : e = .ofRecords product entry asOf) :
    (e.yearRetired = none ∧ e.daysUntilRetirement.any (0 ≤ ·) ∧ e.retiringSoon ≠ some true) ↔
      ∃ r, entry = some r ∧ r.NamesOnlyDay asOf := by
  subst he
  cases entry with
  | none => simp [AvailabilityEvidence.ofRecords]
  | some r =>
    cases hyear : r.yearRetired with
    | some year => simp [AvailabilityEvidence.ofRecords, CatalogEntry.NamesOnlyDay, hyear]
    | none =>
      cases hday : r.expectedRetirement with
      | none => simp [AvailabilityEvidence.ofRecords, CatalogEntry.NamesOnlyDay, hyear, hday]
      | some day =>
        simp [AvailabilityEvidence.ofRecords, CatalogEntry.NamesOnlyDay, hyear, hday,
          ← Date.daysSince_neg_iff, and_comm]

lemma ofRecords_day_ne_minValue (product : Product α) (entry : Option CatalogEntry) (asOf : Date) :
    (AvailabilityEvidence.ofRecords product entry asOf).daysUntilRetirement ≠ some Int64.minValue := by
  intro h
  unfold AvailabilityEvidence.ofRecords at h
  dsimp only at h
  split at h
  · cases h
  · obtain ⟨day, -, hday⟩ := Option.map_eq_some_iff.mp h
    exact Date.daysSince_ne_minValue day asOf hday

variable [Arithmetic α] [NumberText α]

/-- A day that is on record can be written. -/
lemma score?_ofRecords_ne_aborted (product : Product α) (entry : Option CatalogEntry) (asOf : Date)
    (currentYear : Int32) :
    (score? (.ofRecords product entry asOf) currentYear : Checked (Option (Score α))) ≠ .aborted :=
  fun haborted => ofRecords_day_ne_minValue product entry asOf (score?_eq_aborted_iff.mp haborted).2

/-- What is told and what is priced differ for a set that is retired by its age, and for a set whose
catalog entry names only a day to come: the analysis tells that such a set is before its retirement, and it
is not priced so. They agree on all other sets that have a standing, and those are all but the sets whose years do
not fit. -/
theorem standing_agrees_with_phase (product : Product α) (entry : Option CatalogEntry) (asOf : Date)
    (retirementAge : Int32) :
    let e := AvailabilityEvidence.ofRecords product entry asOf
    let published := phase? α e asOf.year
    let standing := retirementStanding e asOf.year retirementAge
    published ≠ .aborted ∧
    (standing = .aborted ↔ ¬ e.YearsFit asOf.year) ∧
    (∀ found, standing = .value found →
      (found.status = .retired ↔ published = .value (some "retired") ∨
        found = ⟨.retired, none⟩ ∧
          e.yearReleased.any fun year => retirementAge.toInt < asOf.year.toInt - year.toInt) ∧
      (found.status = .retiringSoon ↔ published = .value (some "pre_retirement") ∧
        ¬ ∃ r, entry = some r ∧ r.NamesOnlyDay asOf)) ∧
    ((∃ r, entry = some r ∧ r.NamesOnlyDay asOf) → published = .value (some "pre_retirement")) := by
  intro e published standing
  have hended : (score? e asOf.year : Checked (Option (Score α))) ≠ .aborted :=
    score?_ofRecords_ne_aborted product entry asOf asOf.year
  have hretired : published = .value (some "retired") ↔ (timing e asOf.year).phase = "retired" :=
    phase?_eq_some_iff hended (by decide)
  have hbefore : published = .value (some "pre_retirement") ↔ (timing e asOf.year).phase = "pre_retirement" :=
    phase?_eq_some_iff hended (by decide)
  refine ⟨fun haborted => hended (Checked.map_eq_aborted_iff.mp haborted), retirementStanding_eq_aborted_iff,
    fun found hfound => ?_, fun hnamed => ?_⟩
  · obtain ⟨hstatus, hsoon⟩ := standing_iff_phase hfound
    rw [hretired, hbefore, ← ofRecords_namesOnlyDay rfl]
    exact ⟨hstatus, hsoon⟩
  · obtain ⟨hyear, hcoming, -⟩ := (ofRecords_namesOnlyDay rfl).mpr hnamed
    exact hbefore.mpr (phase_eq_preRetirement_iff.mpr (.inr ⟨hyear, .inl hcoming⟩))

end Records

/-- A set that is to retire on a day to come, by an entry without a flag. -/
def announcedEntry (yearReleased : Int32) : CatalogEntry :=
  { catalogNumber := "10305-1", yearReleased, expectedRetirement := some ⟨2026, 12, 1, by decide⟩ }

/-- Half a year before its retirement a set is told to be before its retirement. A recent set is priced as
active then, and an old one as retired. -/
theorem announced_day_not_priced :
    let evidence (yearReleased : Int32) := AvailabilityEvidence.ofRecords
      ({ id := "p-1", name := "Castle" } : Product Float) (announcedEntry yearReleased)
      ⟨2026, 6, 1, by decide⟩
    Availability.phase? Float (evidence 2024) 2026 = .value (some "pre_retirement") ∧
    retirementStanding (evidence 2024) 2026 3 = .value ⟨.active, none⟩ ∧
    Availability.phase? Float (evidence 2015) 2026 = .value (some "pre_retirement") ∧
    retirementStanding (evidence 2015) 2026 3 = .value ⟨.retired, none⟩ := by
  intro evidence
  have hended (yearReleased : Int32) :
      (Availability.score? (evidence yearReleased) 2026 : Checked (Option (Score Float))) ≠ .aborted :=
    score?_ofRecords_ne_aborted _ _ _ 2026
  refine ⟨(Availability.phase?_eq_some_iff (hended 2024) (by decide)).mpr ?_, ?_,
    (Availability.phase?_eq_some_iff (hended 2015) (by decide)).mpr ?_, ?_⟩ <;> decide

end Appraisal
