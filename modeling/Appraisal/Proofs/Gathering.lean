import Appraisal.Gathering.Basic
import Appraisal.Gathering.Collection
import Appraisal.Proofs.KeyedMaps
import Appraisal.Proofs.Traced
import Mathlib.Data.Option.Basic

/-!
# Gathering from a collection

Sources answer from a collection when their single lookups and their batches read the same maps.
Gathering the evidence for one product, and for a batch, then gives the same evidence.
-/

namespace Appraisal
variable {α : Type}

/-- The lookups answer from the records of `c`, for one key and for many, and do not fail. The
products of a batch come in any order. -/
structure Sources.AnswersFrom (s : Sources α) (c : Collection α) : Prop where
  product : ∀ id, s.product id = .ok (c.products.get? id)
  products : ∀ ids, ∃ found, s.products ids = .ok found ∧
    ∀ p, p ∈ found ↔ ∃ id ∈ ids, c.products.get? id = some p
  guide : ∀ key, s.guide key = .ok (c.guides.get? key)
  guides : ∀ keys, ∃ found, s.guides keys = .ok found ∧ ∀ key ∈ keys, found.get? key = c.guides.get? key
  sales : ∀ key, s.sales key = .ok (c.sales.get? key)
  salesOf : ∀ keys, ∃ found, s.salesOf keys = .ok found ∧
    ∀ key ∈ keys, found.get? key = c.sales.get? key
  discussion : ∀ key, s.discussion key = .ok (c.discussions.get? key)
  discussions : ∀ keys, ∃ found, s.discussions keys = .ok found ∧
    ∀ key ∈ keys, found.get? key = c.discussions.get? key
  entry : ∀ key, s.entry key = .ok (c.entries.get? key)
  entries : ∀ keys, ∃ found, s.entries keys = .ok found ∧
    ∀ key ∈ keys, found.get? key = c.entries.get? key

namespace Collection

/-- Every product is filed under its own id. -/
def FiledById (c : Collection α) : Prop := ∀ id p, c.products.get? id = some p → p.id = id

/-- The products that are there under some ids are filed under their own ids. -/
def FiledUnder (c : Collection α) (ids : List String) : Prop :=
  ∀ id ∈ ids, ∀ p, c.products.get? id = some p → p.id = id

lemma FiledById.under {c : Collection α} (hc : c.FiledById) (ids : List String) : c.FiledUnder ids :=
  fun id _ p hp => hc id p hp

/-- Whether the price guide of a product, if it has a catalog number, is there with all its boxes. -/
def HasGuide (c : Collection α) (p : Product α) : Prop :=
  ∀ key, p.catalogNumber = some key → ∃ guide, c.guides.get? key = some guide ∧ guide.missing = []

/-- The records that belong to a product. -/
def related (c : Collection α) (p : Product α) : Related α :=
  Gatherer.Records.of ⟨c.guides, c.sales, c.discussions, c.entries⟩ p

/-- The evidence that the collection holds for a product. -/
def evidence [Arithmetic α] (c : Collection α) (asOf : Date) (p : Product α) : Evidence α :=
  .ofRecords p (c.related p) asOf

/-- What the price guide of a product lacks in the collection. -/
def incompleteness? (c : Collection α) (p : Product α) : Option Incomplete :=
  Appraisal.incompleteness? p (c.related p).guide

lemma related_of_uncatalogued (c : Collection α) {p : Product α} (h : p.catalogNumber = none) :
    c.related p = {} := by
  simp [related, Gatherer.Records.of, h]

lemma related_of_catalogued (c : Collection α) {p : Product α} {key : String}
    (h : p.catalogNumber = some key) :
    c.related p = ⟨c.guides.get? key, c.sales.get? key, c.discussions.get? key, c.entries.get? key⟩ := by
  simp [related, Gatherer.Records.of, h]

/-- A collection in memory answers from itself. -/
lemma sources_answersFrom (c : Collection α) : c.sources.AnswersFrom c where
  product _ := rfl
  products ids := ⟨_, rfl, fun p => List.mem_filterMap⟩
  guide _ := rfl
  guides keys := ⟨_, rfl, fun key h => by rw [Keyed.get?_restrict, if_pos h]⟩
  sales _ := rfl
  salesOf keys := ⟨_, rfl, fun key h => by rw [Keyed.get?_restrict, if_pos h]⟩
  discussion _ := rfl
  discussions keys := ⟨_, rfl, fun key h => by rw [Keyed.get?_restrict, if_pos h]⟩
  entry _ := rfl
  entries keys := ⟨_, rfl, fun key h => by rw [Keyed.get?_restrict, if_pos h]⟩

end Collection

lemma incompleteness?_eq_none_iff (product : Product α) (guide : Option PriceGuide) :
    incompleteness? product guide = none ↔
      ∀ key, product.catalogNumber = some key → ∃ g, guide = some g ∧ g.missing = [] := by
  unfold incompleteness?
  cases hp : product.catalogNumber with
  | none =>
    constructor
    · intro _ key hkey
      cases hkey
    · intro _
      rfl
  | some key =>
    cases guide with
    | none =>
      constructor
      · intro h
        cases h
      · intro h
        obtain ⟨g, hg, -⟩ := h key rfl
        cases hg
    | some g =>
      change (guard (!g.missing.isEmpty) >>= _) = none ↔ _
      cases hg : g.missing with
      | nil =>
        constructor
        · intro _ number _
          exact ⟨g, rfl, hg⟩
        · intro _
          rfl
      | cons kind rest =>
        constructor
        · intro h
          cases h
        · intro h
          obtain ⟨found, hfound, hmissing⟩ := h key rfl
          cases hfound
          rw [hg] at hmissing
          cases hmissing

lemma Collection.incompleteness?_of_hasGuide (c : Collection α) {p : Product α} (hg : c.HasGuide p) :
    c.incompleteness? p = none := by
  rw [incompleteness?, incompleteness?_eq_none_iff]
  intro key hkey
  rw [c.related_of_catalogued hkey]
  exact hg key hkey

namespace Gatherer
variable {c : Collection α} (g : Gatherer α)

lemma related_result (h : g.sources.AnswersFrom c) (key : String) :
    (g.related key).result =
      .ok ⟨c.guides.get? key, c.sales.get? key, c.discussions.get? key, c.entries.get? key⟩ := by
  simp [related, h.guide, h.sales, h.discussion, h.entry, Except.bind]

/-- Whether the queue takes a report does not show. -/
@[simp]
lemma reportIncomplete_result (products : List Incomplete) :
    (g.reportIncomplete products).result = .ok () := by
  unfold reportIncomplete
  cases g.queue <;> rfl

lemma reportIncomplete_calls (products : List Incomplete) :
    (g.reportIncomplete products).calls =
      if g.queue.isSome then [.refresh (sortedDistinct (products.map (·.catalogNumber)))] else [] := by
  unfold reportIncomplete
  cases g.queue <;> rfl

/-- A product has its evidence gathered, unless its price guide is incomplete. -/
lemma gather_result_eq [Arithmetic α] (h : g.sources.AnswersFrom c) {id : String} {p : Product α}
    (hp : c.products.get? id = some p) :
    (g.gather id).result =
      match c.incompleteness? p with
      | none => .ok (c.evidence g.asOf p)
      | some incomplete => .error (.incomplete [incomplete]) := by
  have hasked : g.sources.product id = .ok (some p) := by rw [h.product, hp]
  simp only [gather, Traced.result_bind, Traced.result_request, hasked, Except.bind]
  cases hn : p.catalogNumber with
  | none =>
    simp [Collection.incompleteness?, incompleteness?, Collection.evidence, c.related_of_uncatalogued hn, hn]
  | some key =>
    simp only [Traced.result_bind, g.related_result h, Except.bind, Collection.incompleteness?,
      Collection.evidence, c.related_of_catalogued hn]
    cases incompleteness? p (c.guides.get? key) with
    | none => rfl
    | some incomplete => simp [Except.bind]

/-- A product with a complete price guide, or with none to ask for, has its evidence gathered. -/
lemma gather_result [Arithmetic α] (h : g.sources.AnswersFrom c) {id : String} {p : Product α}
    (hp : c.products.get? id = some p) (hg : c.HasGuide p) :
    (g.gather id).result = .ok (c.evidence g.asOf p) := by
  rw [g.gather_result_eq h hp, c.incompleteness?_of_hasGuide hg]

/-- The products that a batch finds are the products of the collection, whatever their order. -/
lemma get?_byKey_found {ids : List String} (hc : c.FiledUnder ids) {found : List (Product α)}
    (hfound : ∀ p, p ∈ found ↔ ∃ id ∈ ids, c.products.get? id = some p) {id : String} (hid : id ∈ ids) :
    (Keyed.byKey Product.id found).get? id = c.products.get? id := by
  cases hp : c.products.get? id with
  | none =>
    rw [Keyed.byKey, Keyed.get?_ofList_eq_none_iff]
    intro hmem
    obtain ⟨q, hq, rfl⟩ : ∃ q ∈ found, q.id = id := by simpa using hmem
    obtain ⟨other, hin, hother⟩ := (hfound q).mp hq
    rw [hc other hin q hother, hother] at hp
    exact Option.some_ne_none q hp
  | some p =>
    have hpid : p.id = id := hc id hid p hp
    apply Keyed.get?_ofList_of_mem
    · intro q hq
      obtain ⟨q', hq', heq⟩ := List.mem_map.mp hq
      obtain ⟨hid', rfl⟩ := Prod.mk.inj heq
      obtain ⟨other, hin, hother⟩ := (hfound q').mp hq'
      rw [← hc other hin q' hother, hid', hp] at hother
      exact (Option.some.inj hother).symm
    · exact List.mem_map.mpr ⟨p, (hfound p).mpr ⟨id, hid, hp⟩, by rw [hpid]⟩

/-- When all ids are known, the products come in the order in which their ids come first. -/
lemma fetch_result (h : g.sources.AnswersFrom c) {ids : List String} (hc : c.FiledUnder ids)
    (hids : ∀ id ∈ ids, ∃ p, c.products.get? id = some p) :
    (g.fetch ids).result = .ok ((distinct ids).filterMap c.products.get?) := by
  obtain ⟨found, hasked, hfound⟩ := h.products (distinct ids)
  have hget : ∀ id ∈ distinct ids, (Keyed.byKey Product.id found).get? id = c.products.get? id :=
    fun id hid => get?_byKey_found (fun id hid => hc id (mem_distinct.mp hid)) hfound hid
  have hknown : ((distinct ids).filter fun id => !(Keyed.byKey Product.id found).contains id) = [] := by
    rw [List.filter_eq_nil_iff]
    intro id hid
    obtain ⟨p, hp⟩ := hids id (mem_distinct.mp hid)
    simp [Keyed.contains, hget id hid, hp]
  simp only [fetch, Traced.result_bind, Traced.result_request, hasked, Except.bind, hknown,
    List.isEmpty_nil, if_true, Traced.result_pure]
  rw [List.filterMap_congr hget]

/-- The records of a batch answer for every product whose catalog number was asked for. -/
lemma records_result (h : g.sources.AnswersFrom c) (keys : List String) :
    ∃ records, (g.records keys).result = .ok records ∧
      ∀ p : Product α, (∀ key, p.catalogNumber = some key → key ∈ keys) → records.of p = c.related p := by
  obtain ⟨guides, hguides, hguide⟩ := h.guides keys
  obtain ⟨sales, hsales, hsale⟩ := h.salesOf keys
  obtain ⟨discussions, hdiscussions, hdiscussion⟩ := h.discussions keys
  obtain ⟨entries, hentries, hentry⟩ := h.entries keys
  by_cases hempty : keys = []
  · refine ⟨{}, by simp [records, hempty], ?_⟩
    intro p hp
    have hn : p.catalogNumber = none := by
      cases hn : p.catalogNumber with
      | none => rfl
      | some key => simpa [hempty] using hp key hn
    simp [Records.of, hn, c.related_of_uncatalogued hn]
  · refine ⟨⟨guides, sales, discussions, entries⟩, ?_, ?_⟩
    · simp [records, hempty, hguides, hsales, hdiscussions, hentries, Except.bind]
    · intro p hp
      cases hn : p.catalogNumber with
      | none => simp [Records.of, hn, c.related_of_uncatalogued hn]
      | some key =>
        have hkey := hp key hn
        simp [Records.of, hn, c.related_of_catalogued hn, hguide key hkey, hsale key hkey,
          hdiscussion key hkey, hentry key hkey]

/-- A batch has the evidence of each of its products, unless a price guide is incomplete; then it fails
with all that is incomplete. -/
lemma gatherAll_result_eq [Arithmetic α] (h : g.sources.AnswersFrom c) (products : List (Product α)) :
    (g.gatherAll products).result =
      if (products.filterMap c.incompleteness?).isEmpty then
        .ok (.ofList (products.map fun p => (p.id, c.evidence g.asOf p)))
      else .error (.incomplete (products.filterMap c.incompleteness?)) := by
  obtain ⟨records, hasked, hrecords⟩ :=
    g.records_result h (sortedDistinct (products.filterMap (·.catalogNumber)))
  have hof : ∀ p ∈ products, records.of p = c.related p := by
    intro p hp
    refine hrecords p ?_
    intro key hkey
    rw [mem_sortedDistinct, List.mem_filterMap]
    exact ⟨p, hp, hkey⟩
  have hincomplete : (products.filterMap fun p => incompleteness? p (records.of p).guide) =
      products.filterMap c.incompleteness? := by
    refine List.filterMap_congr ?_
    intro p hp
    rw [hof p hp, Collection.incompleteness?]
  have hevidence : (products.map fun p => (p.id, Evidence.ofRecords p (records.of p) g.asOf)) =
      products.map fun p => (p.id, c.evidence g.asOf p) := by
    refine List.map_congr_left ?_
    intro p hp
    rw [hof p hp, Collection.evidence]
  simp only [gatherAll, Traced.result_bind, hasked, Except.bind, hincomplete, hevidence]
  split
  · rfl
  · simp [Except.bind]

/-- When no price guide is incomplete, the batch has the evidence of each of its products. -/
lemma gatherAll_result [Arithmetic α] (h : g.sources.AnswersFrom c) {products : List (Product α)}
    (hg : ∀ p ∈ products, c.HasGuide p) :
    (g.gatherAll products).result =
      .ok (.ofList (products.map fun p => (p.id, c.evidence g.asOf p))) := by
  have hcomplete : products.filterMap c.incompleteness? = [] := by
    rw [List.filterMap_eq_nil_iff]
    intro p hp
    exact c.incompleteness?_of_hasGuide (hg p hp)
  rw [g.gatherAll_result_eq h, hcomplete]
  rfl

end Gatherer
end Appraisal
