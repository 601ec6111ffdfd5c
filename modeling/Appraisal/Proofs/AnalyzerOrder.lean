import Appraisal.Proofs.Merging
import Mathlib.Data.List.Nodup

/-!
# The order of the analyzers

Analyzers look at the evidence, and not at one another's scores. So those for different dimensions can be asked in
any order: each of them enters its score in a place of its own, and whichever is asked first, a score that is not
finite is refused in the end.
-/

namespace Appraisal
variable {α β : Type}

namespace PerDimension

@[ext]
lemma ext_get {p q : PerDimension β} (h : ∀ d, p.get d = q.get d) : p = q := by
  obtain ⟨demand, availability, quality⟩ := p
  obtain ⟨demand', availability', quality'⟩ := q
  obtain rfl : demand = demand' := h .demand
  obtain rfl : availability = availability' := h .availability
  obtain rfl : quality = quality' := h .quality
  rfl

lemma set_comm (p : PerDimension β) {d d' : Dimension} (h : d ≠ d') (x y : β) :
    (p.set d x).set d' y = (p.set d' y).set d x := by
  ext other
  rw [get_set, get_set, get_set, get_set]
  by_cases hd : other = d
  · rw [if_pos hd, if_neg (hd ▸ h), if_pos hd]
  · rw [if_neg hd, if_neg hd]

end PerDimension

namespace Recommendation
variable {analyzers analyzers' : List (Analyzer α)} {e : Evidence α}

lemma heard_perm (horder : analyzers.Perm analyzers') (hdims : (analyzers.map (·.dimension)).Nodup) :
    heard analyzers e = heard analyzers' e := by
  -- Two steps commute: they write in different places, or are the same step.
  apply horder.foldl_eq'
  intro a ha b hb scores
  by_cases hsame : a.dimension = b.dimension
  · rw [List.inj_on_of_nodup_map hdims ha hb hsame]
  · exact scores.set_comm hsame _ _

variable [Arithmetic α]

lemma addScore_of_not_isFinite {scores : Scores α} {a : Analyzer α} {score : Option (Score α)}
    (h : ¬ score.all Score.isFinite) :
    addScore e scores a score =
      .error (.invalid s!"{a.name} analyzer produced a non-finite score for {e.productId}") := by
  have hrefused : score.any (fun s => !s.isFinite) = true := by
    cases score with
    | none => exact absurd rfl h
    | some s => simpa using h
  unfold addScore
  simp only [hrefused, if_true]

lemma exists_scoreAll_eq_error (hended : ∀ a ∈ analyzers, a.analyze e ≠ .aborted)
    (h : ∃ a ∈ analyzers, ¬ (a.score? e).all Score.isFinite) :
    ∃ failure, scoreAll analyzers e = .error failure := by
  rw [scoreAll_eq_foldlM hended]
  -- The scoring fails at the first score that is not finite, whatever was heard before.
  have hfold (scores : Scores α) : ∃ failure,
      analyzers.foldlM (fun scores a => addScore e scores a (a.score? e)) scores = .error failure := by
    clear hended
    induction analyzers generalizing scores with
    | nil =>
      obtain ⟨a, ha, -⟩ := h
      cases ha
    | cons first rest ih =>
      rw [List.foldlM_cons]
      by_cases hfirst : (first.score? e).all Score.isFinite
      · have hrest : ∃ a ∈ rest, ¬ (a.score? e).all Score.isFinite := by
          obtain ⟨a, ha, hinfinite⟩ := h
          rcases List.mem_cons.mp ha with rfl | ha
          · exact absurd hfirst hinfinite
          · exact ⟨a, ha, hinfinite⟩
        rw [addScore_of_isFinite hfirst]
        exact ih hrest _
      · rw [addScore_of_not_isFinite hfirst]
        exact ⟨_, rfl⟩
  obtain ⟨failure, hfailure⟩ := hfold Scores.empty
  exact ⟨failure, by rw [hfailure]; rfl⟩

end Recommendation

section Orders
variable [Arithmetic α] [NumberText α] {analyzers : List (Analyzer α)} {policy : PricePolicy α}
  {strategy : Strategy α} {e : Evidence α}

lemma recommend_of_aborted (hvalid : e.validate = .ok ()) (h : ∃ a ∈ analyzers, a.analyze e = .aborted) :
    recommend analyzers policy strategy e = .ok .aborted := by
  unfold recommend
  rw [hvalid, Recommendation.scoreAll_of_aborted h]
  rfl

lemma exists_recommend_eq_error
    (h : e.validate = .ok () → (∀ a ∈ analyzers, a.analyze e ≠ .aborted) ∧ ∃ a ∈ analyzers, a.isHeard e = false) :
    ∃ failure, recommend analyzers policy strategy e = .error failure := by
  unfold recommend
  cases hvalid : e.validate with
  | error failure => exact ⟨failure, rfl⟩
  | ok =>
    obtain ⟨hended, a, ha, hunheard⟩ := h hvalid
    have hinfinite : ¬ (a.score? e).all Score.isFinite := fun hfinite =>
      absurd (Analyzer.isHeard_iff.mpr ⟨hended a ha, hfinite⟩) (by simp [hunheard])
    obtain ⟨failure, hfails⟩ := Recommendation.exists_scoreAll_eq_error hended ⟨a, ha, hinfinite⟩
    rw [hfails]
    exact ⟨failure, rfl⟩

/-- Analyzers for different dimensions can be asked in any order. Valid evidence on which all of them are heard comes
to the same answer. On any other evidence the two runs fail or are aborted together. -/
theorem recommend_any_order {analyzers analyzers' : List (Analyzer α)} (horder : analyzers.Perm analyzers')
    (hdims : (analyzers.map (·.dimension)).Nodup) (policy : PricePolicy α) (strategy : Strategy α) (e : Evidence α) :
    let answer := recommend analyzers policy strategy e
    let answer' := recommend analyzers' policy strategy e
    let scorable := e.validate = .ok () ∧ ∀ a ∈ analyzers, a.isHeard e
    (scorable → ∃ outcome, answer = .ok outcome ∧ answer' = .ok outcome) ∧
    (¬ scorable → answer = .ok .aborted ∧ answer' = .ok .aborted ∨
      ∃ failure failure', answer = .error failure ∧ answer' = .error failure') := by
  intro answer answer' scorable
  constructor
  · rintro ⟨hvalid, hheard⟩
    have hheard' : ∀ a ∈ analyzers', a.isHeard e := fun a ha => hheard a (horder.mem_iff.mpr ha)
    refine ⟨_, recommend_of_isHeard hvalid hheard, ?_⟩
    rw [Recommendation.heard_perm horder hdims]
    exact recommend_of_isHeard hvalid hheard'
  · intro hnot
    by_cases haborted : e.validate = .ok () ∧ ∃ a ∈ analyzers, a.analyze e = .aborted
    · obtain ⟨hvalid, a, ha, hanalyze⟩ := haborted
      exact .inl ⟨recommend_of_aborted hvalid ⟨a, ha, hanalyze⟩,
        recommend_of_aborted hvalid ⟨a, horder.mem_iff.mp ha, hanalyze⟩⟩
    · have hrefused : e.validate = .ok () →
          (∀ a ∈ analyzers, a.analyze e ≠ .aborted) ∧ ∃ a ∈ analyzers, a.isHeard e = false := by
        intro hvalid
        refine ⟨fun a ha hanalyze => haborted ⟨hvalid, a, ha, hanalyze⟩, ?_⟩
        simpa [scorable, hvalid] using hnot
      obtain ⟨failure, hfailure⟩ : ∃ failure, answer = .error failure := exists_recommend_eq_error hrefused
      simp only [horder.mem_iff] at hrefused
      obtain ⟨failure', hfailure'⟩ : ∃ failure', answer' = .error failure' := exists_recommend_eq_error hrefused
      exact .inr ⟨failure, failure', hfailure, hfailure'⟩

end Orders

/-- Three opinions on a set. The one on its availability is not a number when nothing is known of the stock. -/
def threeOpinions : List (Analyzer Float) :=
  [ { name := "sales", description := "Units sold", dimension := .demand
      analyze := fun e => .value (e.demand.unitsSold.map fun _ => .of 40.0 0.9 "Sold now and then") },
    { name := "shelves", description := "Stock", dimension := .availability
      analyze := fun e => .value (some {
        value := if e.availability.stock.isSome then 60.0 else Arithmetic.undefined
        confidence := 1.0
        reasoning := "Counted" }) },
    { name := "reviews", description := "Star ratings", dimension := .quality
      analyze := fun e => .value (e.quality.rating.map fun rating => .of (rating * 20.0) 0.75 "Well liked") } ]

theorem threeOpinions_any_order :
    let counted : Evidence Float := { likedSet (some ⟨10000⟩) with availability := { stock := some 3 } }
    threeOpinions.Perm threeOpinions.reverse ∧ (threeOpinions.map (·.dimension)).Nodup ∧
    (∃ r, recommend threeOpinions .standard Strategy.quickFlip counted = .ok (.value r) ∧
      recommend threeOpinions.reverse .standard Strategy.quickFlip counted = .ok (.value r)) ∧
    ∃ failure failure',
      recommend threeOpinions .standard Strategy.quickFlip (likedSet (some ⟨10000⟩)) = .error failure ∧
      recommend threeOpinions.reverse .standard Strategy.quickFlip (likedSet (some ⟨10000⟩)) = .error failure' := by
  intro counted
  have horder : threeOpinions.Perm threeOpinions.reverse := threeOpinions.reverse_perm.symm
  have hdims : (threeOpinions.map (·.dimension)).Nodup := by decide
  have hvalid : counted.validate = .ok () := by decide +kernel
  have hheard : ∀ a ∈ threeOpinions, a.isHeard counted := by decide +kernel
  have hunheard : ¬ ∀ a ∈ threeOpinions, a.isHeard (likedSet (some ⟨10000⟩) : Evidence Float) := by decide +kernel
  refine ⟨horder, hdims, ?_, ?_⟩
  · obtain ⟨outcome, hrun, hrun'⟩ :=
      (recommend_any_order horder hdims .standard Strategy.quickFlip counted).1 ⟨hvalid, hheard⟩
    have hyears : counted.availability.YearsFit counted.asOf.year := nofun
    obtain ⟨r, hanswer⟩ :=
      exists_recommend_of_isHeard Strategy.quickFlip hvalid hheard hyears PricePolicy.standard_ordered_float
    obtain rfl : outcome = .value r := Except.ok.inj (hrun.symm.trans hanswer)
    exact ⟨r, hrun, hrun'⟩
  · have hrefused :
        (recommend threeOpinions .standard Strategy.quickFlip (likedSet (some ⟨10000⟩))).toOption.isNone := by
      decide +kernel
    refine ((recommend_any_order horder hdims _ _ _).2 fun h => hunheard h.2).resolve_left ?_
    rintro ⟨hrun, -⟩
    rw [hrun] at hrefused
    cases hrefused

end Appraisal
