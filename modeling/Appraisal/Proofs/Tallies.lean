import Appraisal.Proofs.ExactNumbers
import Appraisal.Proofs.Scorecards
import Mathlib.Data.List.Induction

/-!
# Scorecards, entry by entry

A score is computed from the finished card. A tally reads the same entries one after another and keeps what they add
up to: how many inputs were declared and how many of them were there, which were not, and what was found. After any
entries the two agree, so a score accounts for every entry of its card, however the entries are mixed.
-/

namespace Appraisal

/-- What some entries add up to. -/
structure Tally where
  declared : ℕ := 0
  present : ℕ := 0
  absent : List String := []
  components : List (Component ℚ) := []
  reasons : List String := []
  /-- The value that a key was given last. -/
  answer : String → Option (Json ℚ) := fun _ => none

namespace Tally

/-- The tally after one more entry. -/
def read (t : Tally) : Entry ℚ → Tally
  | .slot _ true => { t with declared := t.declared + 1, present := t.present + 1 }
  | .slot name false => { t with declared := t.declared + 1, absent := t.absent ++ [name] }
  | .component part =>
    { t with components := t.components ++ [{ part with score := max 0 (min 100 part.score) }] }
  | .reason text => { t with reasons := t.reasons ++ [text] }
  | .dataPoint key value => { t with answer := fun other => if other = key then some value else t.answer other }

def points (t : Tally) : ℚ := (t.components.map fun part => part.weight * part.score).sum

def share (t : Tally) : ℚ := if t.declared = 0 then 0 else t.present / t.declared

def explanation (t : Tally) : List String :=
  if t.reasons = [] then t.components.map (·.reasoning) else t.reasons

/-- Whether a score with its breakdown says what a tally adds up to. -/
structure Gives (t : Tally) (formula : String) (s : Score ℚ) (b : Breakdown ℚ) : Prop where
  value : s.value = max 0 (min 100 t.points)
  confidence : s.confidence = t.share
  confidence_mem : 0 ≤ s.confidence ∧ s.confidence ≤ 1
  reasoning : s.reasoning = "; ".intercalate t.explanation
  dataPoints : ∀ key, s.dataPoints.get? key = t.answer key
  components : b.components = t.components
  formula : b.formula = formula
  total : b.total = Exact.nearest t.points
  missing : b.missingData = t.absent

/-- Every input that was declared was there or is named as missing. -/
def IsBalanced (t : Tally) : Prop := t.declared = t.present + t.absent.length

lemma IsBalanced.read {t : Tally} (h : t.IsBalanced) (entry : Entry ℚ) : (t.read entry).IsBalanced := by
  unfold IsBalanced at h ⊢
  cases entry with
  | slot name present =>
    cases present with
    | true =>
      change t.declared + 1 = t.present + 1 + t.absent.length
      omega
    | false =>
      change t.declared + 1 = t.present + (t.absent ++ [name]).length
      rw [List.length_append, List.length_singleton]
      omega
  | component part => exact h
  | reason text => exact h
  | dataPoint key value => exact h

lemma IsBalanced.share_mem {t : Tally} (h : t.IsBalanced) : 0 ≤ t.share ∧ t.share ≤ 1 := by
  unfold share
  split
  · norm_num
  · have hle : (t.present : ℚ) ≤ t.declared := by
      unfold IsBalanced at h
      exact_mod_cast (by omega : t.present ≤ t.declared)
    exact ⟨by positivity, div_le_one_of_le₀ hle (Nat.cast_nonneg _)⟩

end Tally

namespace Scorecard

/-- The tally of a card whose entries are read in order. -/
def tally (card : Scorecard ℚ) : Tally := card.foldl Tally.read {}

variable (card : Scorecard ℚ) (entry : Entry ℚ)

lemma tally_concat : tally (card ++ [entry]) = (tally card).read entry := by
  unfold tally
  rw [List.foldl_append]
  rfl

lemma tally_isBalanced : (tally card).IsBalanced := by
  induction card using List.reverseRecOn with
  | nil => rfl
  | append_singleton card entry ih =>
    rw [tally_concat]
    exact ih.read entry

lemma dataPoints_concat (key : String) (value : Json ℚ) :
    dataPoints (card ++ [.dataPoint key value]) = card.dataPoints.insert key value := by
  unfold dataPoints Keyed.ofList
  rw [List.filterMap_append, List.foldl_append]
  rfl

variable [Exponential]

lemma bounded_eq (part : Component ℚ) : bounded part = { part with score := max 0 (min 100 part.score) } := by
  have hzero : (0.0 : ℚ) = 0 := by norm_num
  have hhundred : (100.0 : ℚ) = 100 := by norm_num
  unfold bounded
  rw [hzero, hhundred, Exact.clamp_eq (by norm_num)]

/-- The tally that has the lists and counts of a card as a whole. -/
def summary (card : Scorecard ℚ) : Tally where
  declared := card.slots.length
  present := card.slots.countP (·.2)
  absent := card.missing
  components := card.components
  reasons := card.reasons
  answer := card.dataPoints.get?

/-- Writing one more entry at the end of a card changes its summary as reading it does. -/
lemma summary_concat : summary (card ++ [entry]) = (summary card).read entry := by
  unfold summary
  cases entry with
  | slot name present =>
    cases present with
    | true => simp [Tally.read, slots, missing, components, reasons, dataPoints]
    | false => simp [Tally.read, slots, missing, components, reasons, dataPoints]
  | component part => simp [Tally.read, slots, missing, components, reasons, dataPoints, bounded_eq]
  | reason text => simp [Tally.read, slots, missing, components, reasons, dataPoints]
  | dataPoint key value =>
    have hanswer : (dataPoints (card ++ [.dataPoint key value])).get? =
        fun other => if other = key then some value else card.dataPoints.get? other := by
      funext other
      rw [dataPoints_concat, Keyed.get?_insert]
    simp [Tally.read, slots, missing, components, reasons, hanswer]

lemma tally_eq_summary : tally card = summary card := by
  induction card using List.reverseRecOn with
  | nil => rfl
  | append_singleton card entry ih => rw [tally_concat, summary_concat, ih]

lemma total_eq_points : card.total = (tally card).points := by
  rw [tally_eq_summary]
  exact Exact.sum_eq _

lemma confidence_eq_share : (card.confidence : ℚ) = (tally card).share := by
  rw [tally_eq_summary]
  unfold confidence Tally.share summary
  by_cases hnone : card.slots = []
  · norm_num [hnone]
  · have hlength : card.slots.length ≠ 0 := by simpa using hnone
    simp only [List.isEmpty_iff, hnone, if_false, hlength]
    rfl

lemma reasoning_eq_explanation : card.reasoning = "; ".intercalate (tally card).explanation := by
  rw [tally_eq_summary]
  unfold reasoning Tally.explanation summary
  simp only [List.isEmpty_iff]

/-- A score gives what the tally of its card adds up to. -/
lemma gives_of_toScore? {formula : String} {s : Score ℚ} (hs : card.toScore? formula = some s) :
    ∃ b, s.breakdown = some b ∧ (tally card).Gives formula s b := by
  have hzero : (0.0 : ℚ) = 0 := by norm_num
  have hone : (1.0 : ℚ) = 1 := by norm_num
  have hhundred : (100.0 : ℚ) = 100 := by norm_num
  have hshare := (tally_isBalanced card).share_mem
  have hconfidence : Arithmetic.clamp 0.0 1.0 card.confidence = (tally card).share := by
    rw [confidence_eq_share, hzero, hone, Exact.clamp_eq_self hshare.1 hshare.2]
  unfold toScore? at hs
  split at hs
  · cases hs
  · cases hs
    refine ⟨_, rfl, ?_, hconfidence, ?_, reasoning_eq_explanation card, ?_, ?_, rfl, ?_, ?_⟩
    · change Arithmetic.clamp 0.0 100.0 card.total = _
      rw [hzero, hhundred, Exact.clamp_eq (by norm_num), total_eq_points]
    · change 0 ≤ Arithmetic.clamp 0.0 1.0 card.confidence ∧ Arithmetic.clamp 0.0 1.0 card.confidence ≤ 1
      rw [hconfidence]
      exact hshare
    · intro key
      rw [tally_eq_summary]
      rfl
    · rw [tally_eq_summary]
      rfl
    · rw [← total_eq_points]
      rfl
    · rw [tally_eq_summary]
      rfl

/-- A card gives no score when no component was written, and else the score that its entries, read one after another,
add up to. -/
theorem toScore?_gives_tally (card : Scorecard ℚ) (formula : String) :
    (card.toScore? formula = none ↔ ∀ part, Entry.component part ∉ card) ∧
      ∀ s, card.toScore? formula = some s → ∃ b, s.breakdown = some b ∧ (tally card).Gives formula s b := by
  refine ⟨?_, fun s hs => gives_of_toScore? card hs⟩
  constructor
  · intro hnone part hpart
    obtain ⟨s, hs⟩ := exists_toScore? hpart formula
    rw [hnone] at hs
    cases hs
  · intro hnone
    rw [toScore?_eq_none_iff]
    refine List.filterMap_eq_nil_iff.mpr fun entry hentry => ?_
    cases entry with
    | component part => exact absurd hentry (hnone part)
    | _ => rfl

end Scorecard
end Appraisal
