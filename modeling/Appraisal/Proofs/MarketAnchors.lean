import Appraisal.Double
import Appraisal.Evidence.Build
import Appraisal.Evidence.Validity
import Appraisal.Proofs.Prices

/-!
# Market prices as anchors

Without a retail price a valuation is anchored on what was paid, and on what is asked only where nothing is known of
what was paid. A payment of nothing is known as well: it is no anchor, and it keeps the asking price from being one.
-/

namespace Appraisal
variable {α : Type}

namespace PricingEvidence

/-- Whether an amount above zero was paid or is asked on the market. -/
def Quotes (p : PricingEvidence α) (price : Cents) : Prop :=
  (p.paidPrice = some price ∨ p.askingPrice = some price) ∧ price.isPositive

/-- Whether what was paid is known to be nothing. -/
def PaidNothing (p : PricingEvidence α) : Prop := ∃ paid, p.paidPrice = some paid ∧ ¬ paid.isPositive

end PricingEvidence

namespace Valuation
variable {p : PricingEvidence α}

lemma anchor?_of_paidNothing (hretail : p.retailPrice = none) (hnothing : p.PaidNothing) : anchor? p = none := by
  obtain ⟨paid, hpaid, hnot⟩ := hnothing
  have hmarket : marketPrice? p = none := by
    simp [marketPrice?, hpaid, Option.filter_some, hnot]
  rw [anchor?, hretail, hmarket]

/-- What was paid comes first, and what is asked only where it is not known. -/
lemma exists_anchor?_of_quotes (hretail : p.retailPrice = none) (hquoted : ∃ price, p.Quotes price)
    (hsome : ¬ p.PaidNothing) : ∃ price, p.Quotes price ∧ anchor? p = some ⟨price, .secondaryMarket⟩ := by
  have hanchor : ∀ price, (p.paidPrice <|> p.askingPrice) = some price → price.isPositive →
      anchor? p = some ⟨price, .secondaryMarket⟩ := by
    intro price hprice hpositive
    have hmarket : marketPrice? p = some price := by
      rw [marketPrice?, hprice, Option.filter_some, if_pos hpositive]
    rw [anchor?, hretail, hmarket]
  cases hpaid : p.paidPrice with
  | some paid =>
    have hpositive : paid.isPositive := by
      by_contra hnot
      exact hsome ⟨paid, hpaid, hnot⟩
    exact ⟨paid, ⟨.inl hpaid, hpositive⟩, hanchor paid (by rw [hpaid]; rfl) hpositive⟩
  | none =>
    obtain ⟨price, hprice, hpositive⟩ := hquoted
    rw [hpaid] at hprice
    have hasked : p.askingPrice = some price := by simpa using hprice
    exact ⟨price, ⟨.inr hasked, hpositive⟩, hanchor price (by rw [hpaid]; exact hasked) hpositive⟩

variable [Arithmetic α] {policy : PricePolicy α} {anchor : Anchor}

lemma objection?_ne_noAnchor : objection? policy p anchor ≠ some .noAnchor := by
  unfold objection? unverified?
  split
  · split
    · simp
    · cases p.askingPrice with
      | none => simp
      | some asking =>
        simp only [Option.bind_eq_bind, Option.bind_some]
        split <;> simp
  · simp

variable [NumberText α] (e : Evidence α) (scores : Scores α) (base : α)

lemma priceOn_ne_noAnchor : priceOn policy e scores base anchor ≠ .value (.rejected .noAnchor) := by
  intro h
  obtain ⟨s, -, ⟨-, hnone⟩ | ⟨value, margin, -, -, ⟨-, hnone⟩ | ⟨buy, d, hpriced, -⟩⟩⟩ := priceOn_cases h
  · cases hnone
  · cases hnone
  · cases hpriced

/-- No anchor is given as the reason exactly when there is none. -/
lemma appraise_eq_noAnchor_iff :
    appraise policy e scores base = .value (.rejected .noAnchor) ↔ anchor? e.pricing = none := by
  unfold appraise
  cases hanchor : anchor? e.pricing with
  | none => simp
  | some anchor =>
    refine iff_of_false ?_ (by simp)
    simp only
    cases hobjection : objection? policy e.pricing anchor with
    | none => exact priceOn_ne_noAnchor e scores base
    | some reason =>
      rintro ⟨⟩
      exact objection?_ne_noAnchor hobjection

end Valuation

section Appraisals
variable [Arithmetic α] [NumberText α] (policy : PricePolicy α) (e : Evidence α) (scores : Scores α) (base : α)

/-- Without a retail price, a price that the market quotes is overlooked exactly when what was paid is known to be
nothing. In every other case the appraisal is anchored on a quoted price. -/
theorem quoted_price_overlooked_iff (hretail : e.pricing.retailPrice = none)
    (hquoted : ∃ price, e.pricing.Quotes price) :
    (appraise policy e scores base = .value (.rejected .noAnchor) ↔ e.pricing.PaidNothing) ∧
    (¬ e.pricing.PaidNothing → ∃ price, e.pricing.Quotes price ∧
      Valuation.anchor? e.pricing = some ⟨price, .secondaryMarket⟩) := by
  rw [Valuation.appraise_eq_noAnchor_iff]
  refine ⟨⟨fun hnone => ?_, Valuation.anchor?_of_paidNothing hretail⟩,
    Valuation.exists_anchor?_of_quotes hretail hquoted⟩
  by_contra hsome
  obtain ⟨price, -, hanchor⟩ := Valuation.exists_anchor?_of_quotes hretail hquoted hsome
  rw [hnone] at hanchor
  cases hanchor

end Appraisals

/-- The evidence for a castle without a retail price that is offered for 90.00, from a guide that knows `paid`. -/
def offeredCastle (paid : Option Cents) : Evidence Float :=
  .ofRecords
    { id := "p-1", name := "Castle", catalogNumber := some "10305-1" }
    { guide := some {
        catalogNumber := "10305-1"
        currentNew := some { averagePrice := some ⟨9000⟩ }
        currentUsed := some {}
        sixMonthNew := some { averagePrice := paid }
        sixMonthUsed := some {} } }
    ⟨2026, 5, 4, by decide⟩

theorem offeredCastle_anchored :
    let castle := offeredCastle none
    castle.pricing.retailPrice = none ∧ castle.pricing.Quotes ⟨9000⟩ ∧
    appraise .standard castle .empty 0.25 ≠ .value (.rejected .noAnchor) := by
  intro castle
  have hretail : castle.pricing.retailPrice = none := rfl
  have hquoted : castle.pricing.Quotes ⟨9000⟩ := ⟨.inr rfl, rfl⟩
  obtain ⟨hiff, -⟩ := quoted_price_overlooked_iff .standard castle .empty 0.25 hretail ⟨_, hquoted⟩
  refine ⟨hretail, hquoted, ?_⟩
  rw [Ne, hiff]
  rintro ⟨paid, hpaid, -⟩
  cases hpaid

/-- A guide that knows of a payment of nothing keeps the asking price from being an anchor. -/
theorem payment_of_nothing_hides_offer :
    let castle := offeredCastle (some ⟨0⟩)
    castle.validate = .ok () ∧ castle.pricing.retailPrice = none ∧ castle.pricing.transactionCount ≠ some 0 ∧
    castle.pricing.askingPrice = some ⟨9000⟩ ∧ (⟨9000⟩ : Cents).isPositive ∧
    ∀ policy scores base, appraise policy castle scores base = .value (.rejected .noAnchor) := by
  intro castle
  refine ⟨rfl, rfl, nofun, rfl, rfl, fun policy scores base => ?_⟩
  rw [Valuation.appraise_eq_noAnchor_iff]
  exact Valuation.anchor?_of_paidNothing rfl ⟨⟨0⟩, rfl, by decide⟩

end Appraisal
