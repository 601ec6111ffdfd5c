import Appraisal.Double
import Appraisal.Proofs.Gathering
import Appraisal.Proofs.Recommendations
import Appraisal.Settings

/-!
# Batches and single products

A batch is gathered with one request a source, put in order and split into recommendations and
failures. For each of its products it says what the analysis of that product alone says, unless one of those
analyses is aborted: that takes the other products with it.
-/

namespace Appraisal
variable {α : Type}

namespace Batch

/-- How one product went: it was recommended, it could not be scored, or its analysis was aborted. -/
abbrev Outcome (α : Type) := Except Failure (Checked (Recommendation α))

/-- How one product went, if it went well. -/
def recommended? (outcome : String × Outcome α) : Option (String × Recommendation α) :=
  match outcome.2 with
  | .ok (.value r) => some (outcome.1, r)
  | .ok .aborted | .error _ => none

/-- How one product went, if it could not be scored. -/
def unscored? (outcome : String × Outcome α) : Option Unscored :=
  match outcome.2 with
  | .ok _ => none
  | .error e => some ⟨outcome.1, e.message⟩

/-- The batch in which some products went as they did. -/
def ofOutcomes (outcomes : List (String × Outcome α)) : Batch α :=
  ⟨.ofList (outcomes.filterMap recommended?), outcomes.filterMap unscored?⟩

lemma foldlM_add {outcomes : List (String × Outcome α)} (h : ∀ outcome ∈ outcomes, outcome.2 ≠ .ok .aborted)
    (b : Batch α) :
    outcomes.foldlM (fun b outcome => b.add outcome.1 outcome.2) b =
      .value ⟨(outcomes.filterMap recommended?).foldl (fun m pair => m.insert pair.1 pair.2) b.recommendations,
        b.failures ++ outcomes.filterMap unscored?⟩ := by
  induction outcomes generalizing b with
  | nil => simp
  | cons outcome rest ih =>
    obtain ⟨id, result⟩ := outcome
    have hfirst := h (id, result) List.mem_cons_self
    have hrest := fun outcome hin => h outcome (List.mem_cons_of_mem _ hin)
    rw [List.foldlM_cons]
    rcases result with e | ⟨r⟩ | _
    · refine (ih hrest { b with failures := b.failures ++ [⟨id, e.message⟩] }).trans ?_
      simp [recommended?, unscored?, List.filterMap_cons]
    · refine (ih hrest { b with recommendations := b.recommendations.insert id r }).trans ?_
      simp [recommended?, unscored?, List.filterMap_cons]
    · exact absurd rfl hfirst

lemma foldlM_add_empty {outcomes : List (String × Outcome α)} (h : ∀ outcome ∈ outcomes, outcome.2 ≠ .ok .aborted) :
    outcomes.foldlM (fun b outcome => b.add outcome.1 outcome.2) (empty : Batch α) = .value (ofOutcomes outcomes) :=
  foldlM_add h .empty

/-- The outcomes of the values of a map. -/
def outcomes {β : Type} (m : Keyed β) (score : β → Outcome α) : List (String × Outcome α) :=
  m.entries.map fun entry => (entry.1, score entry.2)

variable {β : Type} (m : Keyed β) (score : β → Outcome α)

lemma mem_outcomes {id : String} {result : Outcome α} :
    (id, result) ∈ outcomes m score ↔ ∃ x, m.get? id = some x ∧ score x = result := by
  simp only [outcomes, List.mem_map, Prod.exists, Prod.mk.injEq]
  constructor
  · rintro ⟨key, x, hx, rfl, rfl⟩
    exact ⟨x, m.mem_entries_iff.mp hx, rfl⟩
  · rintro ⟨x, hx, rfl⟩
    exact ⟨id, x, m.mem_entries_iff.mpr hx, rfl, rfl⟩

/-- A product is recommended when it was scored. -/
lemma get?_recommendations {id : String} {r : Recommendation α} :
    (ofOutcomes (outcomes m score)).recommendations.get? id = some r ↔
      ∃ x, m.get? id = some x ∧ score x = .ok (.value r) := by
  have hmem : ∀ r, (id, r) ∈ (outcomes m score).filterMap recommended? ↔
      ∃ x, m.get? id = some x ∧ score x = .ok (.value r) := by
    intro r
    rw [← mem_outcomes, List.mem_filterMap]
    constructor
    · rintro ⟨⟨key, result⟩, hin, hr⟩
      rcases result with e | ⟨r'⟩ | _
      · simp [recommended?] at hr
      · obtain ⟨rfl, rfl⟩ : key = id ∧ r' = r := by simpa [recommended?] using hr
        exact hin
      · simp [recommended?] at hr
    · intro hin
      exact ⟨_, hin, rfl⟩
  unfold ofOutcomes
  constructor
  · intro h
    exact (hmem r).mp (Keyed.mem_of_get?_ofList h)
  · intro h
    refine Keyed.get?_ofList_of_mem ?_ ((hmem r).mpr h)
    intro v hv
    obtain ⟨x, hx, hr⟩ := h
    obtain ⟨x', hx', hv'⟩ := (hmem v).mp hv
    rw [hx] at hx'
    obtain rfl := Option.some.inj hx'
    exact Checked.value.inj (Except.ok.inj (hv'.symm.trans hr))

/-- A product is listed with the message of its failure when it was not scored. -/
lemma mem_failures {id text : String} :
    ⟨id, text⟩ ∈ (ofOutcomes (outcomes m score)).failures ↔
      ∃ x, m.get? id = some x ∧ ∃ e, score x = .error e ∧ e.message = text := by
  unfold ofOutcomes
  rw [List.mem_filterMap]
  constructor
  · rintro ⟨⟨key, result⟩, hin, hr⟩
    cases result with
    | ok r => simp [unscored?] at hr
    | error e =>
      obtain ⟨rfl, rfl⟩ : key = id ∧ e.message = text := by simpa [unscored?] using hr
      obtain ⟨x, hx, hs⟩ := (mem_outcomes m score).mp hin
      exact ⟨x, hx, e, hs, rfl⟩
  · rintro ⟨x, hx, e, hs, rfl⟩
    exact ⟨(id, .error e), (mem_outcomes m score).mpr ⟨x, hx, hs⟩, rfl⟩

/-- The failures are listed in the order of the map. -/
lemma failures_ascending :
    ((ofOutcomes (outcomes m score)).failures.map (·.productId)).Pairwise (· < ·) := by
  unfold ofOutcomes
  rw [List.pairwise_map, List.pairwise_filterMap, outcomes, List.pairwise_map]
  refine m.ascending.imp ?_
  rintro ⟨a, x⟩ ⟨b, y⟩ hab u hu v hv
  cases hx : score x with
  | ok r => simp [unscored?, hx] at hu
  | error e =>
    cases hy : score y with
    | ok r => simp [unscored?, hy] at hv
    | error e' =>
      simp only [unscored?, hx, hy, Option.some.injEq] at hu hv
      rw [← hu, ← hv]
      exact hab

lemma mem_recommended_ids {id : String} :
    id ∈ (ofOutcomes (outcomes m score)).recommendations.keys ↔
      ∃ x, m.get? id = some x ∧ ∃ r, score x = .ok (.value r) := by
  simp only [Keyed.mem_keys_iff, get?_recommendations]
  exact ⟨fun ⟨r, x, hx, hr⟩ => ⟨x, hx, r, hr⟩, fun ⟨x, hx, r, hr⟩ => ⟨r, x, hx, hr⟩⟩

lemma mem_failed_ids {id : String} :
    id ∈ (ofOutcomes (outcomes m score)).failures.map (·.productId) ↔
      ∃ x, m.get? id = some x ∧ ∃ e, score x = .error e := by
  rw [List.mem_map]
  constructor
  · rintro ⟨⟨id', text⟩, hmem, rfl⟩
    obtain ⟨x, hx, e, he, -⟩ := (mem_failures m score).mp hmem
    exact ⟨x, hx, e, he⟩
  · rintro ⟨x, hx, e, he⟩
    exact ⟨⟨id, e.message⟩, (mem_failures m score).mpr ⟨x, hx, e, he, rfl⟩, rfl⟩

/-- No product is both recommended and listed as failed. -/
lemma ids_disjoint {id : String} (hr : id ∈ (ofOutcomes (outcomes m score)).recommendations.keys) :
    id ∉ (ofOutcomes (outcomes m score)).failures.map (·.productId) := by
  intro hf
  obtain ⟨x, hx, r, hr⟩ := (mem_recommended_ids m score).mp hr
  obtain ⟨y, hy, e, he⟩ := (mem_failed_ids m score).mp hf
  rw [hx] at hy
  rw [← Option.some.inj hy, hr] at he
  cases he

/-- Every product of the map is in one of the two parts, as long as none was aborted. -/
lemma mem_ids (h : ∀ outcome ∈ outcomes m score, outcome.2 ≠ .ok .aborted) {id : String} :
    (id ∈ (ofOutcomes (outcomes m score)).recommendations.keys ∨
        id ∈ (ofOutcomes (outcomes m score)).failures.map (·.productId)) ↔ id ∈ m.keys := by
  rw [mem_recommended_ids, mem_failed_ids, Keyed.mem_keys_iff]
  constructor
  · rintro (⟨x, hx, -⟩ | ⟨x, hx, -⟩)
    · exact ⟨x, hx⟩
    · exact ⟨x, hx⟩
  · rintro ⟨x, hx⟩
    rcases hs : score x with e | ⟨r⟩ | _
    · exact .inr ⟨x, hx, e, hs⟩
    · exact .inl ⟨x, hx, r, hs⟩
    · exact absurd hs (h (id, score x) ((mem_outcomes m score).mpr ⟨x, hx, rfl⟩))

end Batch

namespace Collection
variable [Arithmetic α]

/-- The evidence that the collection holds for some products, by product id. -/
def evidenceOf (c : Collection α) (asOf : Date) (ids : List String) : Keyed (Evidence α) :=
  .ofList (((distinct ids).filterMap c.products.get?).map fun p => (p.id, c.evidence asOf p))

lemma get?_evidenceOf {c : Collection α} {ids : List String} (hc : c.FiledUnder ids) (asOf : Date)
    (id : String) (e : Evidence α) :
    (c.evidenceOf asOf ids).get? id = some e ↔
      id ∈ ids ∧ ∃ p, c.products.get? id = some p ∧ c.evidence asOf p = e := by
  have hmem : ∀ e, (id, e) ∈ ((distinct ids).filterMap c.products.get?).map (fun p =>
      (p.id, c.evidence asOf p)) ↔ id ∈ ids ∧ ∃ p, c.products.get? id = some p ∧ c.evidence asOf p = e := by
    intro e
    simp only [List.mem_map, List.mem_filterMap, mem_distinct, Prod.mk.injEq]
    constructor
    · rintro ⟨p, ⟨key, hkey, hp⟩, hid, he⟩
      have hown := hc key hkey p hp
      rw [hown] at hid
      subst hid
      exact ⟨hkey, p, hp, he⟩
    · rintro ⟨hid, p, hp, he⟩
      exact ⟨p, ⟨id, hid, hp⟩, hc id hid p hp, he⟩
  constructor
  · intro h
    exact (hmem e).mp (Keyed.mem_of_get?_ofList h)
  · intro h
    refine Keyed.get?_ofList_of_mem ?_ ((hmem e).mpr h)
    intro v hv
    obtain ⟨-, p, hp, rfl⟩ := h
    obtain ⟨-, q, hq, rfl⟩ := (hmem v).mp hv
    rw [hp] at hq
    rw [Option.some.inj hq]

lemma mem_keys_evidenceOf {c : Collection α} (hc : c.FiledById) (asOf : Date) {ids : List String}
    (hids : ∀ id ∈ ids, ∃ p, c.products.get? id = some p ∧ c.HasGuide p) (id : String) :
    id ∈ (c.evidenceOf asOf ids).keys ↔ id ∈ ids := by
  rw [Keyed.mem_keys_iff]
  constructor
  · rintro ⟨e, he⟩
    exact ((get?_evidenceOf (hc.under ids) asOf id e).mp he).1
  · intro hid
    obtain ⟨p, hp, -⟩ := hids id hid
    exact ⟨_, (get?_evidenceOf (hc.under ids) asOf id _).mpr ⟨hid, p, hp, rfl⟩⟩

end Collection

namespace Engine
variable [Arithmetic α] [NumberText α] (engine : Engine α) {c : Collection α}

lemma analyze_result (hs : engine.gatherer.sources.AnswersFrom c) {strategy : Option String}
    {chosen : Strategy α} (hchosen : engine.resolve strategy = .ok chosen) {id : String} {p : Product α}
    (hp : c.products.get? id = some p) (hg : c.HasGuide p) :
    (engine.analyze id strategy).result = engine.score chosen (c.evidence engine.gatherer.asOf p) := by
  simp [analyze, hchosen, Except.bind, engine.gatherer.gather_result hs hp hg]

/-- A batch is made of the outcomes of scoring the evidence of its products. -/
lemma analyzeAll_result (hs : engine.gatherer.sources.AnswersFrom c) (hc : c.FiledById)
    {strategy : Option String} {chosen : Strategy α} (hchosen : engine.resolve strategy = .ok chosen)
    {ids : List String} (hids : ∀ id ∈ ids, ∃ p, c.products.get? id = some p ∧ c.HasGuide p) :
    (engine.analyzeAll ids strategy).result =
      .ok ((Batch.outcomes (c.evidenceOf engine.gatherer.asOf ids) (engine.score chosen)).foldlM
        (fun b outcome => b.add outcome.1 outcome.2) .empty) := by
  have hknown : ∀ id ∈ ids, ∃ p, c.products.get? id = some p := by
    intro id hid
    obtain ⟨p, hp, -⟩ := hids id hid
    exact ⟨p, hp⟩
  have hguides : ∀ p ∈ (distinct ids).filterMap c.products.get?, c.HasGuide p := by
    intro p hp
    obtain ⟨id, hid, hget⟩ := List.mem_filterMap.mp hp
    obtain ⟨q, hq, hg⟩ := hids id (mem_distinct.mp hid)
    rw [hq] at hget
    exact Option.some.inj hget ▸ hg
  have houtcomes : Batch.outcomes (c.evidenceOf engine.gatherer.asOf ids) (engine.score chosen) =
      (c.evidenceOf engine.gatherer.asOf ids).values.map fun e => (e.productId, engine.score chosen e) := by
    rw [Batch.outcomes, Keyed.values, List.map_map]
    refine List.map_congr_left ?_
    rintro ⟨id, e⟩ hentry
    have hget := (Keyed.mem_entries_iff _).mp hentry
    obtain ⟨-, p, hp, rfl⟩ := (Collection.get?_evidenceOf (hc.under ids) _ id e).mp hget
    rw [← hc id p hp]
    rfl
  rw [houtcomes, List.foldlM_map]
  simp only [analyzeAll, Traced.result_bind, Traced.result_lift, hchosen, Except.bind,
    engine.gatherer.fetch_result hs (hc.under ids) hknown, engine.gatherer.gatherAll_result hs hguides,
    Traced.result_pure]
  rfl

/-- Scoring a product within a batch is analyzing it alone. -/
lemma score_evidenceOf_iff (hs : engine.gatherer.sources.AnswersFrom c) (hc : c.FiledById)
    {strategy : Option String} {chosen : Strategy α} (hchosen : engine.resolve strategy = .ok chosen)
    {ids : List String} (hids : ∀ id ∈ ids, ∃ p, c.products.get? id = some p ∧ c.HasGuide p)
    (id : String) (result : Batch.Outcome α) :
    (∃ e, (c.evidenceOf engine.gatherer.asOf ids).get? id = some e ∧ engine.score chosen e = result) ↔
      id ∈ ids ∧ (engine.analyze id strategy).result = result := by
  constructor
  · rintro ⟨e, he, rfl⟩
    obtain ⟨hid, p, hp, rfl⟩ := (Collection.get?_evidenceOf (hc.under ids) _ id e).mp he
    obtain ⟨q, hq, hg⟩ := hids id hid
    rw [hp] at hq
    exact ⟨hid, engine.analyze_result hs hchosen hp (Option.some.inj hq ▸ hg)⟩
  · rintro ⟨hid, rfl⟩
    obtain ⟨p, hp, hg⟩ := hids id hid
    exact ⟨_, (Collection.get?_evidenceOf (hc.under ids) _ id _).mpr ⟨hid, p, hp, rfl⟩,
      (engine.analyze_result hs hchosen hp hg).symm⟩

/-- The analysis of a product takes the batch with it when it is aborted. -/
lemma analyzeAll_of_aborted (hs : engine.gatherer.sources.AnswersFrom c) (hc : c.FiledById)
    {strategy : Option String} {chosen : Strategy α} (hchosen : engine.resolve strategy = .ok chosen)
    {ids : List String} (hids : ∀ id ∈ ids, ∃ p, c.products.get? id = some p ∧ c.HasGuide p)
    (h : ∃ id ∈ ids, (engine.analyze id strategy).result = .ok .aborted) :
    (engine.analyzeAll ids strategy).result = .ok .aborted := by
  obtain ⟨id, hid, haborted⟩ := h
  obtain ⟨e, he, hscore⟩ := (engine.score_evidenceOf_iff hs hc hchosen hids id _).mpr ⟨hid, haborted⟩
  rw [engine.analyzeAll_result hs hc hchosen hids]
  refine congrArg Except.ok (Checked.foldlM_eq_aborted ⟨(id, .ok .aborted), ?_, fun b => rfl⟩ _)
  exact (Batch.mem_outcomes _ _).mpr ⟨e, he, hscore⟩

/-- A batch is aborted exactly when the analysis of one of its products is. Any other batch says of each of its
products what the analysis of the product alone says: either the same recommendation, or the message of its failure.
Every requested product is then in exactly one of the two parts, and the failures are in ascending order of their
ids. -/
theorem analyzeAll_pointwise (hs : engine.gatherer.sources.AnswersFrom c) (hc : c.FiledById)
    (strategy : Option String) (hstrategy : ∃ chosen, engine.resolve strategy = .ok chosen)
    (ids : List String) (hids : ∀ id ∈ ids, ∃ p, c.products.get? id = some p ∧ c.HasGuide p) :
    ((∃ id ∈ ids, (engine.analyze id strategy).result = .ok .aborted) →
      (engine.analyzeAll ids strategy).result = .ok .aborted) ∧
    ((∀ id ∈ ids, (engine.analyze id strategy).result ≠ .ok .aborted) →
      ∃ batch, (engine.analyzeAll ids strategy).result = .ok (.value batch) ∧
        (∀ id ∈ batch.recommendations.keys, id ∉ batch.failures.map (·.productId)) ∧
        (∀ id, id ∈ batch.recommendations.keys ∨ id ∈ batch.failures.map (·.productId) ↔ id ∈ ids) ∧
        (batch.failures.map (·.productId)).Pairwise (· < ·) ∧
        (∀ id r, batch.recommendations.get? id = some r ↔
          id ∈ ids ∧ (engine.analyze id strategy).result = .ok (.value r)) ∧
        (∀ id text, ⟨id, text⟩ ∈ batch.failures ↔
          id ∈ ids ∧ ∃ e, (engine.analyze id strategy).result = .error e ∧ e.message = text)) := by
  obtain ⟨chosen, hchosen⟩ := hstrategy
  have halone := engine.score_evidenceOf_iff hs hc hchosen hids
  constructor
  · exact engine.analyzeAll_of_aborted hs hc hchosen hids
  · intro hended
    rw [engine.analyzeAll_result hs hc hchosen hids]
    have houtcomes : ∀ outcome ∈ Batch.outcomes (c.evidenceOf engine.gatherer.asOf ids) (engine.score chosen),
        outcome.2 ≠ .ok .aborted := by
      rintro ⟨id, result⟩ hin rfl
      obtain ⟨hid, haborted⟩ := (halone id (.ok .aborted)).mp ((Batch.mem_outcomes _ _).mp hin)
      exact hended id hid haborted
    refine ⟨_, congrArg Except.ok (Batch.foldlM_add_empty houtcomes), ?_, ?_, Batch.failures_ascending _ _, ?_, ?_⟩
    · intro id hid
      exact Batch.ids_disjoint _ _ hid
    · intro id
      rw [Batch.mem_ids _ _ houtcomes, Collection.mem_keys_evidenceOf hc _ hids]
    · intro id r
      rw [Batch.get?_recommendations, halone]
    · intro id text
      rw [Batch.mem_failures]
      constructor
      · rintro ⟨x, hx, e, he, htext⟩
        obtain ⟨hid, hresult⟩ := (halone id (.error e)).mp ⟨x, hx, he⟩
        exact ⟨hid, e, hresult, htext⟩
      · rintro ⟨hid, e, he, htext⟩
        obtain ⟨x, hx, hscore⟩ := (halone id (.error e)).mpr ⟨hid, he⟩
        exact ⟨x, hx, e, hscore, htext⟩

/-- Two listings of one set and one without a catalog number. A rating is off the scale. -/
def mixedCollection : Collection Float where
  products := .byKey Product.id [
    { id := "falcon", name := "Falcon", catalogNumber := some "75192-1", rating := some 4.5 },
    { id := "brick", name := "Brick" },
    { id := "resale", name := "Falcon, opened", catalogNumber := some "75192-1", rating := some 9.0 }]
  guides := .byKey PriceGuide.catalogNumber [
    { catalogNumber := "75192-1", currentNew := some {}, currentUsed := some {}, sixMonthNew := some {},
      sixMonthUsed := some {} }]
  sales := .empty
  discussions := .byKey Discussion.catalogNumber [{ catalogNumber := "75192-1", postCount := 3 }]
  entries := .empty

/-- The engine over that collection, on the first of June 2026. -/
def mixedEngine : Engine Float :=
  .ofSettings {} ⟨2026, 6, 1, by decide⟩ mixedCollection.sources false

theorem mixedEngine_pointwise :
    let ids := ["resale", "falcon", "brick", "falcon", "resale"]
    (∃ chosen, mixedEngine.resolve (some "quick_flip") = .ok chosen) ∧
    (∀ id ∈ ids, ∃ p, mixedCollection.products.get? id = some p ∧ mixedCollection.HasGuide p) ∧
    (∀ id ∈ ids, (mixedEngine.analyze id (some "quick_flip")).result ≠ .ok .aborted) ∧
    ∃ batch, (mixedEngine.analyzeAll ids (some "quick_flip")).result = .ok (.value batch) ∧
      "resale" ∉ batch.recommendations.keys ∧
      ⟨"resale", "Invalid input: product resale: rating 9 is outside 0-5"⟩ ∈ batch.failures := by
  intro ids
  have hstrategy : ∃ chosen, mixedEngine.resolve (some "quick_flip") = .ok chosen := ⟨_, rfl⟩
  have hguide : ∀ p : Product Float, p.catalogNumber = none ∨ p.catalogNumber = some "75192-1" →
      mixedCollection.HasGuide p := by
    intro p hp key hkey
    rcases hp with hp | hp
    · rw [hp] at hkey
      cases hkey
    · obtain rfl : "75192-1" = key := Option.some.inj (hp.symm.trans hkey)
      exact ⟨_, rfl, rfl⟩
  have hcases : ∀ id ∈ ids, id = "resale" ∨ id = "falcon" ∨ id = "brick" := by
    intro id hid
    simp only [ids, List.mem_cons, List.not_mem_nil, or_false] at hid
    tauto
  have hids : ∀ id ∈ ids, ∃ p, mixedCollection.products.get? id = some p ∧ mixedCollection.HasGuide p := by
    intro id hid
    rcases hcases id hid with rfl | rfl | rfl
    · exact ⟨_, rfl, hguide _ (.inr rfl)⟩
    · exact ⟨_, rfl, hguide _ (.inr rfl)⟩
    · exact ⟨_, rfl, hguide _ (.inl rfl)⟩
  have hfiled : mixedCollection.FiledById := fun _ _ h => (Keyed.key_of_get?_byKey h).2
  have hended : ∀ id ∈ ids, (mixedEngine.analyze id (some "quick_flip")).result ≠ .ok .aborted := by
    intro id hid
    obtain ⟨chosen, hchosen⟩ := hstrategy
    obtain ⟨p, hp, hg⟩ := hids id hid
    rw [mixedEngine.analyze_result mixedCollection.sources_answersFrom hchosen hp hg]
    refine recommend_ne_aborted ?_ _ PricePolicy.standard_ordered_float chosen
    rcases hcases id hid with rfl | rfl | rfl
    all_goals
      obtain rfl := Option.some.inj hp
      exact ⟨nofun, nofun, nofun⟩
  obtain ⟨-, hanswered⟩ := mixedEngine.analyzeAll_pointwise mixedCollection.sources_answersFrom hfiled
    (some "quick_flip") hstrategy ids hids
  obtain ⟨batch, hresult, hdisjoint, -, -, -, hfailed⟩ := hanswered hended
  have hlisted : ⟨"resale", "Invalid input: product resale: rating 9 is outside 0-5"⟩ ∈ batch.failures := by
    rw [hfailed]
    refine ⟨by decide, .invalid "product resale: rating 9 is outside 0-5", rfl, rfl⟩
  refine ⟨hstrategy, hids, hended, batch, hresult, ?_, hlisted⟩
  intro hkey
  exact hdisjoint _ hkey (List.mem_map.mpr ⟨_, hlisted, rfl⟩)

/-- A brick, and a castle that retired in the earliest year that can be written. -/
def ancientCollection : Collection Float where
  products := .byKey Product.id [
    { id := "brick", name := "Brick" },
    { id := "castle", name := "Castle", catalogNumber := some "10305-1", retailPrice := some ⟨9999⟩ }]
  guides := .byKey PriceGuide.catalogNumber [
    { catalogNumber := "10305-1", currentNew := some {}, currentUsed := some {}, sixMonthNew := some {},
      sixMonthUsed := some {} }]
  sales := .empty
  discussions := .empty
  entries := .byKey CatalogEntry.catalogNumber [
    { catalogNumber := "10305-1", yearRetired := some Int32.minValue }]

def ancientEngine : Engine Float :=
  .ofSettings {} ⟨2026, 6, 1, by decide⟩ ancientCollection.sources false

/-- The years since the castle retired do not fit, and a batch with it says nothing of the brick either. -/
theorem ancient_castle_aborts_batch :
    let ids := ["brick", "castle"]
    ancientEngine.gatherer.sources.AnswersFrom ancientCollection ∧ ancientCollection.FiledById ∧
    (∃ chosen, ancientEngine.resolve (some "quick_flip") = .ok chosen) ∧
    (∀ id ∈ ids, ∃ p, ancientCollection.products.get? id = some p ∧ ancientCollection.HasGuide p) ∧
    (∃ r, (ancientEngine.analyze "brick" (some "quick_flip")).result = .ok (.value r)) ∧
    (ancientEngine.analyzeAll ids (some "quick_flip")).result = .ok .aborted := by
  intro ids
  have hchosen : ancientEngine.resolve (some "quick_flip") = .ok Strategy.quickFlip := rfl
  have hsources := ancientCollection.sources_answersFrom
  have hfiled : ancientCollection.FiledById := fun _ _ h => (Keyed.key_of_get?_byKey h).2
  have hbrick : ∃ p, ancientCollection.products.get? "brick" = some p ∧ ancientCollection.HasGuide p :=
    ⟨_, rfl, nofun⟩
  have hcastle : ∃ p, ancientCollection.products.get? "castle" = some p ∧ ancientCollection.HasGuide p := by
    refine ⟨_, rfl, ?_⟩
    rintro _ ⟨⟩
    exact ⟨_, rfl, rfl⟩
  have hids : ∀ id ∈ ids, ∃ p, ancientCollection.products.get? id = some p ∧ ancientCollection.HasGuide p := by
    simp only [ids, List.forall_mem_cons, List.not_mem_nil, false_implies, implies_true, and_true]
    exact ⟨hbrick, hcastle⟩
  refine ⟨hsources, hfiled, ⟨_, hchosen⟩, hids, ?_, ?_⟩
  · obtain ⟨p, hp, hguide⟩ := hbrick
    rw [ancientEngine.analyze_result hsources hchosen hp hguide]
    obtain rfl := Option.some.inj hp
    refine exists_recommend (by decide +kernel) ?_ _ PricePolicy.standard_ordered_float _
    exact ⟨nofun, nofun, nofun⟩
  · have halone : (ancientEngine.analyze "castle" (some "quick_flip")).result = .ok .aborted := by
      obtain ⟨p, hp, hguide⟩ := hcastle
      rw [ancientEngine.analyze_result hsources hchosen hp hguide]
      obtain rfl := Option.some.inj hp
      refine (recommend_of_validate (by decide +kernel) _ _ _).trans (congrArg Except.ok ?_)
      -- Whatever the castle scores, it cannot be appraised.
      cases Recommendation.standardScores (α := Float) _ _ with
      | aborted => rfl
      | value scores => rfl
    exact ancientEngine.analyzeAll_of_aborted hsources hfiled hchosen hids ⟨"castle", by simp [ids], halone⟩

end Engine
end Appraisal
