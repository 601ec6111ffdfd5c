import Appraisal.Double
import Appraisal.Proofs.Gathering

/-!
# Slices of evidence

The slices of the evidence for a product are built one by one, some of them from the same records. They tell the
same facts alike, and hold no price that is not positive and no name that is blank.
-/

namespace Appraisal
variable {α : Type}

namespace PriceGuide
variable (g : PriceGuide)

lemma missing_eq_nil_iff : g.missing = [] ↔ ∀ kind, (g.box kind).isSome := by
  unfold missing
  rw [List.filter_eq_nil_iff]
  have hall : ∀ kind, kind ∈ (Named.all : List BoxKind) := by
    intro kind
    cases kind <;> decide
  simp [hall, Option.isSome_iff_ne_none]

lemma isSome_prices?_iff : g.prices?.isSome ↔ ∀ kind, (g.box kind).isSome := by
  constructor
  · intro h kind
    obtain ⟨prices, hprices⟩ := Option.isSome_iff_exists.mp h
    simp only [prices?, Option.bind_eq_bind, Option.bind_eq_some_iff] at hprices
    obtain ⟨currentNew, hcurrentNew, currentUsed, hcurrentUsed, sixMonthNew, hsixMonthNew, sixMonthUsed,
      hsixMonthUsed, -⟩ := hprices
    cases kind <;> simp [box, *]
  · intro h
    obtain ⟨currentNew, hcurrentNew⟩ := Option.isSome_iff_exists.mp (h .currentNew)
    obtain ⟨currentUsed, hcurrentUsed⟩ := Option.isSome_iff_exists.mp (h .currentUsed)
    obtain ⟨sixMonthNew, hsixMonthNew⟩ := Option.isSome_iff_exists.mp (h .sixMonthNew)
    obtain ⟨sixMonthUsed, hsixMonthUsed⟩ := Option.isSome_iff_exists.mp (h .sixMonthUsed)
    simp only [box] at hcurrentNew hcurrentUsed hsixMonthNew hsixMonthUsed
    simp [prices?, hcurrentNew, hcurrentUsed, hsixMonthNew, hsixMonthUsed]

/-- A guide lacks no box exactly when its prices can be read. -/
lemma missing_eq_nil_iff_prices? : g.missing = [] ↔ g.prices?.isSome := by
  rw [missing_eq_nil_iff, isSome_prices?_iff]

end PriceGuide

namespace SalesHistory
variable (h : SalesHistory α)

/-- The conditions for which there are statistics. -/
def recorded : List (ConditionSales α) := h.new.toList ++ h.used.toList

lemma sold?_eq_some_iff {sales : Option (ConditionSales α)} {s : ConditionSales α} :
    sold? sales = some s ↔ sales = some s ∧ 0 < s.totalTransactions := by
  simp [sold?, Option.filter_eq_some_iff]

lemma sold?_eq_none_iff {sales : Option (ConditionSales α)} :
    sold? sales = none ↔ ∀ s, sales = some s → s.totalTransactions = 0 := by
  simp [sold?, Option.filter_eq_none_iff]

lemma primary_eq : h.primary = (sold? h.new).or ((sold? h.used).or (h.new.or h.used)) := by
  simp [primary]

variable {h}

lemma mem_recorded_of_primary {s : ConditionSales α} (hs : h.primary = some s) : s ∈ h.recorded := by
  simp only [primary_eq, Option.or_eq_some_iff, sold?_eq_some_iff] at hs
  simp only [recorded, List.mem_append, Option.mem_toList]
  tauto

/-- A condition with a sale speaks for the set. Without one it is that of new copies, and else that of used ones. -/
lemma primary_cases :
    (∃ s, h.primary = some s ∧ 0 < s.totalTransactions) ∨
      (∀ s ∈ h.recorded, s.totalTransactions = 0) ∧ h.primary = h.new.or h.used := by
  rw [primary_eq]
  cases hnew : sold? h.new with
  | some s => exact .inl ⟨s, rfl, (sold?_eq_some_iff.mp hnew).2⟩
  | none =>
    cases hused : sold? h.used with
    | some s => exact .inl ⟨s, rfl, (sold?_eq_some_iff.mp hused).2⟩
    | none =>
      refine .inr ⟨?_, rfl⟩
      intro s hs
      rcases List.mem_append.mp hs with hs | hs
      · exact sold?_eq_none_iff.mp hnew s (Option.mem_toList.mp hs)
      · exact sold?_eq_none_iff.mp hused s (Option.mem_toList.mp hs)

/-- The condition that speaks for a set has no sale exactly when there are conditions and none has one. -/
lemma primary_unsold_iff :
    h.primary.map (·.totalTransactions) = some 0 ↔
      h.recorded ≠ [] ∧ ∀ s ∈ h.recorded, s.totalTransactions = 0 := by
  obtain ⟨s, hs, hsold⟩ | ⟨hunsold, hprimary⟩ := h.primary_cases
  · have hne : s.totalTransactions ≠ 0 := by
      intro hzero
      rw [hzero] at hsold
      exact absurd hsold (by decide)
    rw [hs]
    refine iff_of_false ?_ ?_
    · simpa using hne
    · rintro ⟨-, hzero⟩
      exact hne (hzero s (mem_recorded_of_primary hs))
  · have hsome : h.recorded ≠ [] ↔ ∃ s, h.primary = some s := by
      rw [hprimary, recorded]
      cases h.new <;> cases h.used <;> simp
    rw [hsome, Option.map_eq_some_iff]
    constructor
    · rintro ⟨s, hs, -⟩
      exact ⟨⟨s, hs⟩, hunsold⟩
    · rintro ⟨⟨s, hs⟩, -⟩
      exact ⟨s, hs, hunsold s (mem_recorded_of_primary hs)⟩

end SalesHistory

lemma exists_not_blank {text : Option String} {s : String} (h : notBlank text = some s) :
    ∃ c ∈ s.toList, ¬ Text.isBlank c := by
  obtain ⟨-, hnot⟩ := Option.filter_eq_some_iff.mp h
  simpa [Text.isBlankText] using hnot

/-- Whether the slices of some evidence tell the same facts alike, and what they hold is fit to be read. -/
structure Evidence.SlicesAgree (e : Evidence α) : Prop where
  retailPrice : e.demand.retailPrice = e.pricing.retailPrice
  askingPrice : e.demand.askingPrice = e.pricing.askingPrice
  paidPrice : e.demand.paidPrice = e.pricing.paidPrice
  transactionCount : e.pricing.transactionCount = e.demand.transactions.map (·.totalTransactions)
  priceVolatility : e.pricing.priceVolatility = e.demand.transactions.bind (·.volatility)
  retail_isPositive : ∀ price, e.pricing.retailPrice = some price → price.isPositive
  listing_isPositive : ∀ price, e.pricing.listingPrice = some price → price.isPositive
  no_days_once_retired : ∀ year, e.availability.yearRetired = some year → year ≤ e.asOf.year →
    e.availability.daysUntilRetirement = none
  brand_not_blank : ∀ brand, e.quality.brand = some brand → ∃ c ∈ brand.toList, ¬ Text.isBlank c
  theme_not_blank : ∀ theme, e.quality.theme = some theme → ∃ c ∈ theme.toList, ¬ Text.isBlank c

section Records
variable [Arithmetic α] (product : Product α) (related : Related α) (asOf : Date)

lemma ofRecords_slicesAgree : (Evidence.ofRecords product related asOf).SlicesAgree where
  retailPrice := rfl
  askingPrice := rfl
  paidPrice := rfl
  transactionCount := rfl
  priceVolatility := rfl
  retail_isPositive price hprice := (Option.filter_eq_some_iff.mp hprice).2
  listing_isPositive price hprice := (Option.filter_eq_some_iff.mp hprice).2
  no_days_once_retired year hyear hcome := by
    have hyear' : related.entry.bind (·.yearRetired) = some year := hyear
    have hcome' : year ≤ asOf.year := hcome
    simp [Evidence.ofRecords, AvailabilityEvidence.ofRecords, hyear', hcome']
  brand_not_blank brand hbrand := exists_not_blank hbrand
  theme_not_blank theme htheme := exists_not_blank htheme

lemma isSome_market_iff {number : String} (hnumber : product.catalogNumber = some number) :
    incompleteness? product related.guide = none ↔
      (Evidence.ofRecords product related asOf).pricing.market.isSome := by
  have hmarket : (Evidence.ofRecords product related asOf).pricing.market = related.guide.bind PriceGuide.prices? :=
    rfl
  rw [incompleteness?_eq_none_iff, hmarket]
  constructor
  · intro h
    obtain ⟨g, hguide, hmissing⟩ := h number hnumber
    rw [hguide]
    exact g.missing_eq_nil_iff_prices?.mp hmissing
  · intro h key _
    cases hguide : related.guide with
    | none => simp [hguide] at h
    | some g => exact ⟨g, rfl, g.missing_eq_nil_iff_prices?.mpr (by simpa [hguide] using h)⟩

/-- The slices of the evidence for a product agree with each other and with its records. Its count of transactions
is zero exactly when there are sales statistics and no condition in them has a sale, and a catalogued product has
market prices exactly when its price guide lacks no box. -/
theorem evidence_slices_agree :
    (Evidence.ofRecords product related asOf).SlicesAgree ∧
    ((Evidence.ofRecords product related asOf).pricing.transactionCount = some 0 ↔
      ∃ history, related.sales = some history ∧ history.recorded ≠ [] ∧
        ∀ s ∈ history.recorded, s.totalTransactions = 0) ∧
    ∀ number, product.catalogNumber = some number →
      (incompleteness? product related.guide = none ↔
        (Evidence.ofRecords product related asOf).pricing.market.isSome) := by
  refine ⟨ofRecords_slicesAgree product related asOf, ?_, fun number hnumber => ?_⟩
  · have hcount : (Evidence.ofRecords product related asOf).pricing.transactionCount =
        (related.sales.bind SalesHistory.primary).map (·.totalTransactions) := rfl
    rw [hcount]
    cases related.sales with
    | none => simp
    | some history => simpa using SalesHistory.primary_unsold_iff
  · exact isSome_market_iff product related asOf hnumber

end Records

/-- The records of a ship that retired in 2020, against what was expected, and of which no copy was sold. -/
def unsoldShip : Related Float where
  guide := some {
    catalogNumber := "10210-1"
    currentNew := some {}
    currentUsed := some {}
    sixMonthNew := some {}
    sixMonthUsed := some {} }
  sales := some {
    catalogNumber := "10210-1"
    new := some { totalTransactions := 0 }
    used := some { totalTransactions := 0 } }
  entry := some {
    catalogNumber := "10210-1"
    yearRetired := some 2020
    expectedRetirement := some ⟨2026, 12, 31, by decide⟩
    theme := some "Pirates" }

theorem unsoldShip_slices_agree :
    let ship : Product Float :=
      { id := "p-1", name := "Ship", catalogNumber := some "10210-1", brand := some " ", retailPrice := some ⟨0⟩ }
    let e := Evidence.ofRecords ship unsoldShip ⟨2026, 6, 1, by decide⟩
    ship.catalogNumber = some "10210-1" ∧ e.SlicesAgree ∧ e.availability.daysUntilRetirement = none ∧
    e.pricing.transactionCount = some 0 ∧ e.pricing.market.isSome := by
  intro ship e
  obtain ⟨hslices, hunsold, hcomplete⟩ := evidence_slices_agree ship unsoldShip ⟨2026, 6, 1, by decide⟩
  have hdays := hslices.no_days_once_retired 2020 rfl (by decide)
  have hcount := hunsold.mpr ⟨_, rfl, by decide, by simp [SalesHistory.recorded]⟩
  exact ⟨rfl, hslices, hdays, hcount, (hcomplete "10210-1" rfl).mp rfl⟩

end Appraisal
