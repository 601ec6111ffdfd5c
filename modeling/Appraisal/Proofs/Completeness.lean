import Appraisal.Proofs.BatchAnalysis
import Appraisal.Proofs.Reports

/-!
# Completeness of batches

A batch is gathered as a whole or not at all. When price guides are incomplete, its failure names every
product concerned as a request for that product alone does, and the queue is told once.
-/

namespace Appraisal
variable {α : Type}

namespace Collection
variable (c : Collection α)

/-- The boxes that were never looked at under a catalog number, in their usual order; all of them when
there is no guide. -/
def missingBoxes (key : String) : List BoxKind :=
  Named.all.filter fun kind => ((c.guides.get? key).bind (·.box kind)).isNone

/-- Whether the product of an id has a catalog number under which a box was never looked at. -/
def isIncomplete (id : String) : Bool :=
  ((c.products.get? id).bind (·.catalogNumber)).any fun key => !(c.missingBoxes key).isEmpty

lemma elim_missing (key : String) :
    (c.guides.get? key).elim Named.all PriceGuide.missing = c.missingBoxes key := by
  unfold missingBoxes
  cases c.guides.get? key with
  | none => rfl
  | some guide => rfl

lemma incompleteness?_eq_some_iff {p : Product α} {entry : Incomplete} :
    c.incompleteness? p = some entry ↔
      p.catalogNumber = some entry.catalogNumber ∧ c.missingBoxes entry.catalogNumber ≠ [] ∧
        entry = ⟨p.id, entry.catalogNumber, c.missingBoxes entry.catalogNumber⟩ := by
  unfold incompleteness? Appraisal.incompleteness?
  cases hn : p.catalogNumber with
  | none => simp
  | some key =>
    rw [c.related_of_catalogued hn]
    simp only [Option.bind_eq_bind, Option.bind_some, elim_missing, Option.some.injEq]
    by_cases hbox : c.missingBoxes key = []
    · simp only [hbox, List.isEmpty_nil, Bool.not_true]
      constructor
      · exact nofun
      · rintro ⟨rfl, hne, -⟩
        exact absurd hbox hne
    · have hnonempty : (!(c.missingBoxes key).isEmpty) = true := by simp [hbox]
      simp only [hnonempty, guard_true, Option.pure_def, Option.bind_some, Option.some.injEq]
      constructor
      · rintro rfl
        exact ⟨rfl, hbox, rfl⟩
      · rintro ⟨rfl, -, hentry⟩
        exact hentry.symm

variable {c}

lemma isIncomplete_eq {id : String} {p : Product α} (hp : c.products.get? id = some p) :
    c.isIncomplete id = (c.incompleteness? p).isSome := by
  rw [Bool.eq_iff_iff, Option.isSome_iff_exists]
  simp only [isIncomplete, hp, Option.bind_some, Option.any_eq_true, Bool.not_eq_true',
    List.isEmpty_eq_false_iff, incompleteness?_eq_some_iff]
  constructor
  · rintro ⟨key, hkey, hbox⟩
    exact ⟨⟨p.id, key, c.missingBoxes key⟩, hkey, hbox, rfl⟩
  · rintro ⟨entry, hkey, hbox, -⟩
    exact ⟨entry.catalogNumber, hkey, hbox⟩

variable (c)

/-- What the guides of the products of some ids lack, in the order in which the ids come first. -/
def blamed (ids : List String) : List Incomplete :=
  ((distinct ids).filterMap c.products.get?).filterMap c.incompleteness?

variable {c} {ids : List String}

lemma mem_blamed {entry : Incomplete} :
    entry ∈ c.blamed ids ↔
      ∃ id ∈ ids, ∃ p, c.products.get? id = some p ∧ c.incompleteness? p = some entry := by
  simp only [blamed, List.mem_filterMap, mem_distinct]
  constructor
  · rintro ⟨p, ⟨id, hid, hp⟩, hentry⟩
    exact ⟨id, hid, p, hp, hentry⟩
  · rintro ⟨id, hid, p, hp, hentry⟩
    exact ⟨p, ⟨id, hid, hp⟩, hentry⟩

/-- Exactly the products with an incomplete guide are named, once each. -/
lemma blamed_ids (hc : c.FiledUnder ids) :
    (c.blamed ids).map (·.productId) = (distinct ids).filter c.isIncomplete := by
  rw [blamed, List.filterMap_filterMap, List.map_filterMap, ← List.filterMap_eq_filter]
  refine List.filterMap_congr ?_
  intro id hid
  cases hp : c.products.get? id with
  | none => simp [Option.guard, isIncomplete, hp]
  | some p =>
    have hown := hc id (mem_distinct.mp hid) p hp
    rw [Option.bind_some, Option.guard, isIncomplete_eq hp]
    cases hentry : c.incompleteness? p with
    | none => rfl
    | some entry =>
      obtain ⟨-, -, heq⟩ := c.incompleteness?_eq_some_iff.mp hentry
      rw [heq]
      simp [hown]

lemma blamed_eq_nil_iff (hc : c.FiledUnder ids) :
    c.blamed ids = [] ↔ ∀ id ∈ ids, c.isIncomplete id = false := by
  rw [← List.map_eq_nil_iff (f := (·.productId)), blamed_ids hc, List.filter_eq_nil_iff]
  simp only [mem_distinct, Bool.not_eq_true]

end Collection

/-- Sources that answer from a collection blame no price guide. -/
lemma Sources.AnswersFrom.blameless {s : Sources α} {c : Collection α} (h : s.AnswersFrom c) :
    s.AnswerBlamelessly where
  product id := .of_eq_ok (h.product id)
  products ids := have ⟨_, hfound, _⟩ := h.products ids; .of_eq_ok hfound
  guide key := .of_eq_ok (h.guide key)
  guides keys := have ⟨_, hfound, _⟩ := h.guides keys; .of_eq_ok hfound
  sales key := .of_eq_ok (h.sales key)
  salesOf keys := have ⟨_, hfound, _⟩ := h.salesOf keys; .of_eq_ok hfound
  discussion key := .of_eq_ok (h.discussion key)
  discussions keys := have ⟨_, hfound, _⟩ := h.discussions keys; .of_eq_ok hfound
  entry key := .of_eq_ok (h.entry key)
  entries keys := have ⟨_, hfound, _⟩ := h.entries keys; .of_eq_ok hfound

namespace Traced
variable {β γ : Type}

/-- Whether a computation that succeeds has asked for no refresh. -/
def SilentOnSuccess (x : Traced β) : Prop := ∀ a, x.result = .ok a → x.refreshes = []

lemma Quiet.silent {x : Traced β} (hx : x.Quiet) : x.SilentOnSuccess := fun _ _ => hx.refreshes

lemma Quiet.bind_silent {x : Traced β} {f : β → Traced γ} (hx : x.Quiet)
    (hf : ∀ a, (f a).SilentOnSuccess) : (x >>= f).SilentOnSuccess := by
  intro b hb
  cases h : x.result with
  | error e => rw [refreshes_bind_of_error h, hx.refreshes]
  | ok a =>
    rw [result_bind, h] at hb
    rw [refreshes_bind_of_ok h, hx.refreshes, hf a b hb]
    rfl

end Traced

namespace Gatherer
variable [Arithmetic α] (g : Gatherer α) {c : Collection α} {ids : List String}

/-- The evidence for the products of some ids. -/
def collect (ids : List String) : Traced (Keyed (Evidence α)) := do
  let products ← g.fetch ids
  g.gatherAll products

lemma collect_result (h : g.sources.AnswersFrom c) (hc : c.FiledUnder ids)
    (hids : ∀ id ∈ ids, ∃ p, c.products.get? id = some p) :
    (g.collect ids).result =
      if (c.blamed ids).isEmpty then .ok (c.evidenceOf g.asOf ids)
      else .error (.incomplete (c.blamed ids)) := by
  simp only [collect, Traced.result_bind, g.fetch_result h hc hids, Except.bind, g.gatherAll_result_eq h]
  rfl

/-- Whether there is a queue, and what becomes of a report, does not show in the result. -/
lemma collect_result_queue (queue : Option (List String → Except Failure Unit)) (ids : List String) :
    ({ g with queue }.collect ids).result = (g.collect ids).result := by
  have hrecords : ∀ keys, { g with queue }.records keys = g.records keys := fun _ => rfl
  have hgather : ∀ products, ({ g with queue }.gatherAll products).result = (g.gatherAll products).result := by
    intro products
    simp only [gatherAll, hrecords, Traced.result_bind]
    congr 1
    funext records
    split
    · rfl
    · simp only [Traced.result_bind, reportIncomplete_result]
  have hfetch : { g with queue }.fetch ids = g.fetch ids := rfl
  simp only [collect, hfetch, Traced.result_bind, hgather]

/-- A batch that is complete reports nothing. -/
lemma collect_silent (hs : g.sources.AnswerBlamelessly) (ids : List String) :
    (g.collect ids).SilentOnSuccess := by
  refine (fetch_quiet hs ids).bind_silent fun products => ?_
  unfold gatherAll
  refine (records_quiet hs _).bind_silent fun records => ?_
  simp only
  split
  · exact (Traced.Quiet.pure _).silent
  · intro evidence hok
    simp [Except.bind] at hok

lemma collect_reports (hq : g.queue.isSome) (hs : g.sources.AnswerBlamelessly) (ids : List String) :
    (g.collect ids).Reports :=
  (fetch_quiet hs ids).bind_reports fun products => gatherAll_reports hq hs products

variable {g}

lemma collect_fails_iff (h : g.sources.AnswersFrom c) (hc : c.FiledUnder ids)
    (hids : ∀ id ∈ ids, ∃ p, c.products.get? id = some p) :
    (∃ named, (g.collect ids).result = .error (.incomplete named)) ↔ ∃ id ∈ ids, c.isIncomplete id := by
  have hsome : (∃ id ∈ ids, c.isIncomplete id) ↔ c.blamed ids ≠ [] := by
    rw [Ne, Collection.blamed_eq_nil_iff hc]
    simp
  rw [hsome, g.collect_result h hc hids]
  by_cases hnil : c.blamed ids = []
  · simp [hnil]
  · simp [hnil]

lemma named_eq_blamed (h : g.sources.AnswersFrom c) (hc : c.FiledUnder ids)
    (hids : ∀ id ∈ ids, ∃ p, c.products.get? id = some p) {named : List Incomplete}
    (hnamed : (g.collect ids).result = .error (.incomplete named)) : named = c.blamed ids := by
  rw [g.collect_result h hc hids] at hnamed
  split at hnamed
  · cases hnamed
  · cases hnamed
    rfl

/-- A product that a batch blames is blamed in the same way when it is requested alone. -/
lemma gather_of_mem_blamed (h : g.sources.AnswersFrom c) (hc : c.FiledUnder ids) {entry : Incomplete}
    (hentry : entry ∈ c.blamed ids) :
    (c.products.get? entry.productId).bind (·.catalogNumber) = some entry.catalogNumber ∧
      entry.missing = c.missingBoxes entry.catalogNumber ∧
      (g.gather entry.productId).result = .error (.incomplete [entry]) := by
  obtain ⟨id, hid, p, hp, hlacks⟩ := Collection.mem_blamed.mp hentry
  obtain ⟨hnumber, -, hparts⟩ := c.incompleteness?_eq_some_iff.mp hlacks
  have hown : entry.productId = id := by rw [hparts, ← hc id hid p hp]
  rw [hown, hp]
  refine ⟨hnumber, by rw [hparts], ?_⟩
  rw [g.gather_result_eq h hp, hlacks]

/-- A batch without an incomplete guide has one evidence a product. -/
lemma collect_of_complete (h : g.sources.AnswersFrom c) (hc : c.FiledUnder ids)
    (hids : ∀ id ∈ ids, ∃ p, c.products.get? id = some p)
    (hcomplete : ∀ id ∈ ids, c.isIncomplete id = false) :
    ∃ evidence, (g.collect ids).result = .ok evidence ∧ evidence.keys = sortedDistinct ids ∧
      ∀ id ∈ ids, ∃ p, c.products.get? id = some p ∧ evidence.get? id = some (c.evidence g.asOf p) := by
  have hget : ∀ id ∈ ids, ∃ p, c.products.get? id = some p ∧
      (c.evidenceOf g.asOf ids).get? id = some (c.evidence g.asOf p) := by
    intro id hid
    obtain ⟨p, hp⟩ := hids id hid
    exact ⟨p, hp, (Collection.get?_evidenceOf hc _ id _).mpr ⟨hid, p, hp, rfl⟩⟩
  refine ⟨c.evidenceOf g.asOf ids, ?_, Keyed.keys_eq_sortedDistinct fun id => ?_, hget⟩
  · rw [g.collect_result h hc hids, (Collection.blamed_eq_nil_iff hc).mpr hcomplete]
    rfl
  · rw [Keyed.mem_keys_iff]
    constructor
    · rintro ⟨e, he⟩
      exact ((Collection.get?_evidenceOf hc _ id e).mp he).1
    · intro hid
      obtain ⟨p, -, he⟩ := hget id hid
      exact ⟨_, he⟩

variable (g)

/-- A batch of existing products is complete, or its failure names every product with an incomplete guide.
The failed batch names them in the order of the request, each as a request for it alone does, and tells the
queue once. What the queue does with that changes nothing. -/
theorem collect_complete_or_names_all (h : g.sources.AnswersFrom c) (ids : List String)
    (hids : ∀ id ∈ ids, ∃ p, c.products.get? id = some p ∧ p.id = id) :
    ((∃ named, (g.collect ids).result = .error (.incomplete named)) ↔ ∃ id ∈ ids, c.isIncomplete id) ∧
    (∀ named, (g.collect ids).result = .error (.incomplete named) →
      named.map (·.productId) = (distinct ids).filter c.isIncomplete ∧
      (∀ entry ∈ named,
        (c.products.get? entry.productId).bind (·.catalogNumber) = some entry.catalogNumber ∧
        entry.missing = c.missingBoxes entry.catalogNumber ∧
        (g.gather entry.productId).result = .error (.incomplete [entry])) ∧
      (g.queue.isSome → ∃ numbers, (g.collect ids).refreshes = [numbers] ∧
        numbers.Pairwise (· < ·) ∧ ∀ number, number ∈ numbers ↔ number ∈ named.map (·.catalogNumber))) ∧
    (∀ queue, ({ g with queue }.collect ids).result = (g.collect ids).result) ∧
    ((∀ id ∈ ids, c.isIncomplete id = false) →
      (g.collect ids).refreshes = [] ∧
      ∃ evidence, (g.collect ids).result = .ok evidence ∧ evidence.keys = sortedDistinct ids ∧
        ∀ id ∈ ids, ∃ p, c.products.get? id = some p ∧ evidence.get? id = some (c.evidence g.asOf p)) := by
  have hc : c.FiledUnder ids := by
    intro id hid p hp
    obtain ⟨q, hq, hown⟩ := hids id hid
    rw [hp] at hq
    rw [Option.some.inj hq, hown]
  have hknown : ∀ id ∈ ids, ∃ p, c.products.get? id = some p :=
    fun id hid => (hids id hid).imp fun p hp => hp.1
  refine ⟨collect_fails_iff h hc hknown, ?_, fun queue => g.collect_result_queue queue ids, ?_⟩
  · intro named hnamed
    have heq := named_eq_blamed h hc hknown hnamed
    refine ⟨heq ▸ Collection.blamed_ids hc, ?_, ?_⟩
    · intro entry hentry
      exact gather_of_mem_blamed h hc (heq ▸ hentry)
    · intro hq
      have hreports := g.collect_reports hq h.blameless ids
      rw [Traced.Reports, hnamed] at hreports
      exact ⟨_, hreports, sortedDistinct_ascending _, fun number => mem_sortedDistinct⟩
  · intro hcomplete
    obtain ⟨evidence, hok, hevidence⟩ := collect_of_complete h hc hknown hcomplete
    exact ⟨g.collect_silent h.blameless ids evidence hok, evidence, hok, hevidence⟩

/-- Two listings of a set whose guide lacks a box, a set without a guide, a set with a whole guide, and a
listing without a catalog number. -/
def gappyCollection : Collection Float where
  products := .byKey Product.id [
    { id := "falcon", name := "Falcon", catalogNumber := some "75192-1" },
    { id := "resale", name := "Falcon, opened", catalogNumber := some "75192-1" },
    { id := "castle", name := "Castle", catalogNumber := some "10305-1" },
    { id := "truck", name := "Truck", catalogNumber := some "42083-1" },
    { id := "brick", name := "Brick" }]
  guides := .byKey PriceGuide.catalogNumber [
    { catalogNumber := "75192-1", currentNew := some {}, currentUsed := some {}, sixMonthUsed := some {} },
    { catalogNumber := "42083-1", currentNew := some {}, currentUsed := some {}, sixMonthNew := some {},
      sixMonthUsed := some {} }]
  sales := .empty
  discussions := .empty
  entries := .empty

/-- It reports to a queue that is down. -/
def gappyGatherer : Gatherer Float where
  sources := gappyCollection.sources
  queue := some fun _ => .error (.database "queue.enqueue is down")
  asOf := ⟨2026, 8, 1, by decide⟩

theorem gappyGatherer_names_all :
    let ids := ["resale", "truck", "castle", "brick", "resale", "falcon"]
    (∀ id ∈ ids, ∃ p, gappyCollection.products.get? id = some p ∧ p.id = id) ∧
    ∃ named, (gappyGatherer.collect ids).result = .error (.incomplete named) ∧
      named.map (·.productId) = ["resale", "castle", "falcon"] ∧
      ⟨"falcon", "75192-1", [.sixMonthNew]⟩ ∈ named ∧
      ∃ numbers, (gappyGatherer.collect ids).refreshes = [numbers] ∧ numbers.Pairwise (· < ·) := by
  intro ids
  have hids : ∀ id ∈ ids, ∃ p, gappyCollection.products.get? id = some p ∧ p.id = id := by
    simp only [ids, List.forall_mem_cons]
    exact ⟨⟨_, rfl, rfl⟩, ⟨_, rfl, rfl⟩, ⟨_, rfl, rfl⟩, ⟨_, rfl, rfl⟩, ⟨_, rfl, rfl⟩, ⟨_, rfl, rfl⟩, nofun⟩
  obtain ⟨hfails, hnames, -, -⟩ :=
    gappyGatherer.collect_complete_or_names_all gappyCollection.sources_answersFrom ids hids
  obtain ⟨named, hnamed⟩ := hfails.mpr ⟨"castle", by decide, rfl⟩
  obtain ⟨hproducts, hentries, hqueue⟩ := hnames named hnamed
  have hlisted : named.map (·.productId) = ["resale", "castle", "falcon"] := hproducts
  obtain ⟨numbers, hnumbers, hascending, -⟩ := hqueue rfl
  have hfalcon : "falcon" ∈ named.map (·.productId) := by
    rw [hlisted]
    decide
  obtain ⟨⟨productId, catalogNumber, missing⟩, hmem, rfl⟩ := List.mem_map.mp hfalcon
  obtain ⟨hnumber, hmissing, -⟩ := hentries _ hmem
  obtain rfl : "75192-1" = catalogNumber := Option.some.inj hnumber
  obtain rfl : missing = [.sixMonthNew] := hmissing
  exact ⟨hids, named, hnamed, hlisted, hmem, numbers, hnumbers, hascending⟩

end Gatherer
end Appraisal
