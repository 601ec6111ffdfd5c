import Appraisal.Proofs.Gathering
import Appraisal.Service

/-!
# Reports of incomplete guides

A query on a database asks for a refresh once when it fails for incomplete price guides, and then for
the catalog numbers that its failure names. In all other cases it asks for none.
-/

namespace Appraisal
variable {α β γ : Type}

/-- The catalog numbers that a failure names. -/
def Failure.named : Failure → List String
  | .incomplete products => products.map (·.catalogNumber)
  | _ => []

/-- The catalog numbers that a failed answer names. -/
def namedBy : Except Failure β → List String
  | .error e => e.named
  | .ok _ => []

/-- The numbers of a request for a refresh. -/
def Call.refreshed? : Call → Option (List String)
  | .refresh keys => some keys
  | _ => none

/-- Whether a result blames no price guide. -/
def Blameless (result : Except Failure β) : Prop :=
  ∀ products, result ≠ .error (.incomplete products)

namespace Blameless

lemma ok (a : β) : Blameless (.ok a) := by
  intro products h
  cases h

lemma of_eq_ok {result : Except Failure β} {a : β} (h : result = .ok a) : Blameless result := h ▸ ok a

lemma error {e : Failure} (h : ∀ products, e ≠ .incomplete products) :
    Blameless (.error e : Except Failure β) := by
  intro products heq
  exact h products (Except.error.inj heq)

lemma bind {x : Except Failure β} {f : β → Except Failure γ} (hx : Blameless x)
    (hf : ∀ a, Blameless (f a)) : Blameless (x >>= f) := by
  cases x with
  | ok a => exact hf a
  | error e =>
    intro products h
    exact hx products (congrArg _ (Except.error.inj h))

lemma map {x : Except Failure β} (hx : Blameless x) (f : β → γ) : Blameless (x.map f) := by
  cases x with
  | ok a => exact ok _
  | error e =>
    intro products h
    exact hx products (congrArg _ (Except.error.inj h))

lemma mapM {f : β → Except Failure γ} (hf : ∀ a, Blameless (f a)) (xs : List β) :
    Blameless (xs.mapM f) := by
  induction xs with
  | nil => exact ok _
  | cons x xs ih =>
    rw [List.mapM_cons]
    exact (hf x).bind fun _ => ih.bind fun _ => ok _

lemma foldlM {f : γ → β → Except Failure γ} (hf : ∀ c a, Blameless (f c a)) (xs : List β) (start : γ) :
    Blameless (xs.foldlM f start) := by
  induction xs generalizing start with
  | nil => exact ok _
  | cons x xs ih =>
    rw [List.foldlM_cons]
    exact (hf start x).bind ih

end Blameless

namespace Traced

/-- The requests for a refresh that a computation makes. -/
def refreshes (x : Traced β) : List (List String) := x.calls.filterMap Call.refreshed?

/-- Whether a computation blames no price guide and asks for no refresh. -/
structure Quiet (x : Traced β) : Prop where
  blameless : Blameless x.result
  refreshes : x.refreshes = []

/-- Whether a computation asks for a refresh of what its failure names, and of nothing else. -/
def Reports (x : Traced β) : Prop :=
  x.refreshes = match x.result with
    | .error (.incomplete products) => [sortedDistinct (products.map (·.catalogNumber))]
    | _ => []

lemma refreshes_bind_of_ok {x : Traced β} {a : β} (h : x.result = .ok a) (f : β → Traced γ) :
    (x >>= f).refreshes = x.refreshes ++ (f a).refreshes := by
  rw [refreshes, calls_bind_of_ok h, List.filterMap_append]
  rfl

lemma refreshes_bind_of_error {x : Traced β} {e : Failure} (h : x.result = .error e)
    (f : β → Traced γ) : (x >>= f).refreshes = x.refreshes := by
  rw [refreshes, calls_bind_of_error h]
  rfl

lemma Quiet.pure (a : β) : (Pure.pure a : Traced β).Quiet := ⟨Blameless.ok a, rfl⟩

lemma Quiet.lift {result : Except Failure β} (h : Blameless result) : (Traced.lift result).Quiet :=
  ⟨h, rfl⟩

lemma Quiet.fail {e : Failure} (h : ∀ products, e ≠ .incomplete products) :
    (Traced.fail e : Traced β).Quiet :=
  ⟨Blameless.error h, rfl⟩

lemma Quiet.request {call : Call} {result : Except Failure β} (hcall : call.refreshed? = none)
    (h : Blameless result) : (Traced.request call result).Quiet :=
  ⟨h, by simp [Traced.refreshes, hcall]⟩

lemma Quiet.bind {x : Traced β} {f : β → Traced γ} (hx : x.Quiet) (hf : ∀ a, (f a).Quiet) :
    (x >>= f).Quiet := by
  cases h : x.result with
  | ok a =>
    refine ⟨?_, ?_⟩
    · rw [result_bind, h]
      exact (hf a).blameless
    · rw [refreshes_bind_of_ok h, hx.refreshes, (hf a).refreshes]
      rfl
  | error e =>
    refine ⟨?_, ?_⟩
    · rw [result_bind, h]
      have hblameless := hx.blameless
      rw [h] at hblameless
      exact Blameless.error fun products heq => hblameless products (congrArg _ heq)
    · rw [refreshes_bind_of_error h, hx.refreshes]

lemma Quiet.reports {x : Traced β} (hx : x.Quiet) : x.Reports := by
  rw [Reports, hx.refreshes]
  split
  · rename_i products h
    exact absurd h (hx.blameless products)
  · rfl

/-- After quiet steps a computation reports what its last step reports. -/
lemma Quiet.bind_reports {x : Traced β} {f : β → Traced γ} (hx : x.Quiet) (hf : ∀ a, (f a).Reports) :
    (x >>= f).Reports := by
  cases h : x.result with
  | ok a =>
    have hlast := hf a
    rw [Reports, refreshes_bind_of_ok h, result_bind, h, hx.refreshes]
    exact hlast
  | error e =>
    rw [Reports, refreshes_bind_of_error h, result_bind, h, hx.refreshes]
    have hblameless := hx.blameless
    rw [h] at hblameless
    cases e with
    | incomplete products => exact absurd rfl (hblameless products)
    | _ => rfl

/-- Quiet steps after a report do not change it. -/
lemma Reports.bind_quiet {x : Traced β} {f : β → Traced γ} (hx : x.Reports) (hf : ∀ a, (f a).Quiet) :
    (x >>= f).Reports := by
  cases h : x.result with
  | ok a =>
    rw [Reports, h] at hx
    have hlast := (hf a).reports
    rw [Reports, refreshes_bind_of_ok h, result_bind, h, hx]
    exact hlast
  | error e =>
    rw [Reports, h] at hx
    rw [Reports, refreshes_bind_of_error h, result_bind, h, hx]
    cases e with
    | incomplete products => rfl
    | _ => rfl

end Traced

/-! ### Reading rows -/

lemma Row.get_blameless (row : Row α) (table : Table) (index : Nat) (read : Cell.Reader α β) :
    Blameless (row.get table index read) := by
  unfold Row.get
  split
  · rename_i cell _
    cases read cell with
    | ok a => exact Blameless.ok a
    | error e =>
      refine Blameless.error ?_
      intro products h
      cases e <;> cases h
  · exact Blameless.error fun products h => by cases h

namespace Layout

/-- Whether reading a row blames no price guide. -/
def ReadsBlamelessly {ρ : Type} (l : Layout α ρ) : Prop := ∀ row, Blameless (l.read row)

variable [Arithmetic α] [NumberText α]

lemma product_blameless : (product : Layout α (Product α)).ReadsBlamelessly := by
  intro row
  change Blameless (Product.ofRow row)
  unfold Product.ofRow
  repeat refine Blameless.bind (Row.get_blameless _ _ _ _) fun _ => ?_
  exact .ok _

lemma guide_blameless : (guide : Layout α PriceGuide).ReadsBlamelessly := by
  intro row
  change Blameless (PriceGuide.ofRow row)
  unfold PriceGuide.ofRow
  repeat refine Blameless.bind (Row.get_blameless _ _ _ _) fun _ => ?_
  exact .ok _

lemma sales_blameless : (sales : Layout α (SalesHistory α)).ReadsBlamelessly := by
  intro row
  change Blameless (SalesHistory.ofRow row)
  unfold SalesHistory.ofRow
  repeat refine Blameless.bind (Row.get_blameless _ _ _ _) fun _ => ?_
  exact .ok _

omit [NumberText α] in
lemma discussion_blameless : (discussion : Layout α (Discussion α)).ReadsBlamelessly := by
  intro row
  change Blameless (Discussion.ofRow row)
  unfold Discussion.ofRow
  repeat refine Blameless.bind (Row.get_blameless _ _ _ _) fun _ => ?_
  exact .ok _

omit [Arithmetic α] [NumberText α] in
lemma entry_blameless : (entry : Layout α CatalogEntry).ReadsBlamelessly := by
  intro row
  change Blameless (CatalogEntry.ofRow row)
  unfold CatalogEntry.ofRow
  repeat refine Blameless.bind (Row.get_blameless _ _ _ _) fun _ => ?_
  exact .ok _

omit [Arithmetic α] [NumberText α]
variable {ρ : Type} {l : Layout α ρ}

lemma find_blameless (h : l.ReadsBlamelessly) (rows : Keyed (Row α)) (key : String) :
    Blameless (l.find rows key) := by
  unfold find
  split
  · exact (h _).map _
  · exact .ok _

lemma findAll_blameless (h : l.ReadsBlamelessly) (rows : Keyed (Row α)) (keys : List String) :
    Blameless (l.findAll rows keys) := by
  unfold findAll Table.lookUp
  split
  · exact .mapM h _
  · exact .error fun products h => by cases h

lemma findMany_blameless (h : l.ReadsBlamelessly) (rows : Keyed (Row α)) (keys : List String) :
    Blameless (l.findMany rows keys) :=
  (findAll_blameless h rows keys).map _

end Layout

/-! ### Queries -/

/-- Whether no lookup blames a price guide. -/
structure Sources.AnswerBlamelessly (s : Sources α) : Prop where
  product : ∀ id, Blameless (s.product id)
  products : ∀ ids, Blameless (s.products ids)
  guide : ∀ key, Blameless (s.guide key)
  guides : ∀ keys, Blameless (s.guides keys)
  sales : ∀ key, Blameless (s.sales key)
  salesOf : ∀ keys, Blameless (s.salesOf keys)
  discussion : ∀ key, Blameless (s.discussion key)
  discussions : ∀ keys, Blameless (s.discussions keys)
  entry : ∀ key, Blameless (s.entry key)
  entries : ∀ keys, Blameless (s.entries keys)

lemma Database.sources_blameless [Arithmetic α] [NumberText α] (db : Database α) :
    db.sources.AnswerBlamelessly where
  product := Layout.find_blameless Layout.product_blameless _
  products := Layout.findAll_blameless Layout.product_blameless _
  guide := Layout.find_blameless Layout.guide_blameless _
  guides := Layout.findMany_blameless Layout.guide_blameless _
  sales := Layout.find_blameless Layout.sales_blameless _
  salesOf := Layout.findMany_blameless Layout.sales_blameless _
  discussion := Layout.find_blameless Layout.discussion_blameless _
  discussions := Layout.findMany_blameless Layout.discussion_blameless _
  entry := Layout.find_blameless Layout.entry_blameless _
  entries := Layout.findMany_blameless Layout.entry_blameless _

namespace Gatherer
variable {g : Gatherer α}

lemma related_quiet (hs : g.sources.AnswerBlamelessly) (key : String) : (g.related key).Quiet :=
  (Traced.Quiet.request rfl (hs.guide key)).bind fun _ =>
    (Traced.Quiet.request rfl (hs.sales key)).bind fun _ =>
      (Traced.Quiet.request rfl (hs.discussion key)).bind fun _ =>
        (Traced.Quiet.request rfl (hs.entry key)).bind fun _ => .pure _

lemma records_quiet (hs : g.sources.AnswerBlamelessly) (keys : List String) : (g.records keys).Quiet := by
  unfold records
  split
  · exact .pure _
  · exact (Traced.Quiet.request rfl (hs.guides keys)).bind fun _ =>
      (Traced.Quiet.request rfl (hs.salesOf keys)).bind fun _ =>
        (Traced.Quiet.request rfl (hs.discussions keys)).bind fun _ =>
          (Traced.Quiet.request rfl (hs.entries keys)).bind fun _ => .pure _

lemma fetch_quiet (hs : g.sources.AnswerBlamelessly) (ids : List String) : (g.fetch ids).Quiet := by
  unfold fetch
  refine (Traced.Quiet.request rfl (hs.products _)).bind fun found => ?_
  simp only
  split
  · exact .pure _
  · exact .fail fun products h => by cases h

/-- What is reported is what the failure after it names. -/
lemma reportIncomplete_reports (hq : g.queue.isSome) (products : List Incomplete) :
    (do g.reportIncomplete products; Traced.fail (.incomplete products) : Traced β).Reports := by
  simp [Traced.Reports, Traced.refreshes, Traced.calls_bind_of_ok, reportIncomplete_calls, hq,
    Call.refreshed?, Except.bind]

variable [Arithmetic α]

lemma gather_reports (hq : g.queue.isSome) (hs : g.sources.AnswerBlamelessly) (id : String) :
    (g.gather id).Reports := by
  unfold gather
  refine (Traced.Quiet.request rfl (hs.product id)).bind_reports fun found => ?_
  split
  · exact (Traced.Quiet.fail fun products h => by cases h).reports
  · split
    · exact (Traced.Quiet.pure _).reports
    · refine (related_quiet hs _).bind_reports fun related => ?_
      split
      · exact reportIncomplete_reports hq _
      · exact (Traced.Quiet.pure _).reports

lemma gatherAll_reports (hq : g.queue.isSome) (hs : g.sources.AnswerBlamelessly)
    (products : List (Product α)) : (g.gatherAll products).Reports := by
  unfold gatherAll
  refine (records_quiet hs _).bind_reports fun records => ?_
  simp only
  split
  · exact (Traced.Quiet.pure _).reports
  · exact reportIncomplete_reports hq _

end Gatherer

section Scoring
variable [Arithmetic α]

lemma Evidence.validate_blameless [NumberText α] (e : Evidence α) : Blameless e.validate := by
  unfold Evidence.validate
  simp only
  split
  · exact .error fun products h => by cases h
  · split
    · exact .error fun products h => by cases h
    · exact .ok _

lemma Recommendation.addScore_blameless (e : Evidence α) (scores : Scores α) (a : Analyzer α)
    (score : Option (Score α)) : Blameless (addScore e scores a score) := by
  unfold addScore
  split
  · exact .error fun products h => by cases h
  · exact .ok _

lemma Recommendation.scoreAll_blameless (analyzers : List (Analyzer α)) (e : Evidence α) :
    Blameless (scoreAll analyzers e) := by
  unfold scoreAll
  split
  · exact .ok _
  · refine (Blameless.foldlM ?_ _ _).bind fun _ => .ok _
    exact fun scores said => addScore_blameless e scores said.1 said.2

variable [NumberText α]

namespace Engine
variable {engine : Engine α}

lemma score_blameless (engine : Engine α) (strategy : Strategy α) (e : Evidence α) :
    Blameless (engine.score strategy e) :=
  (Evidence.validate_blameless e).bind fun _ =>
    (Recommendation.scoreAll_blameless _ e).bind fun _ => .ok _

omit [Arithmetic α] [NumberText α] in
lemma resolve_blameless (engine : Engine α) (strategy : Option String) :
    Blameless (engine.resolve strategy) := by
  unfold resolve Registry.get
  split
  · exact .ok _
  · exact .error fun products h => by cases h

/-- Every query reports the price guides that its failure names. -/
theorem reply_reports (hq : engine.gatherer.queue.isSome)
    (hs : engine.gatherer.sources.AnswerBlamelessly) (query : Query) : (engine.reply query).Reports := by
  cases query with
  | analyze id strategy =>
    refine Traced.Reports.bind_quiet ?_ fun _ => .pure _
    refine (Traced.Quiet.lift (engine.resolve_blameless strategy)).bind_reports fun chosen => ?_
    exact (Gatherer.gather_reports hq hs id).bind_quiet fun e => .lift (engine.score_blameless chosen e)
  | analyzeAll ids strategy =>
    refine Traced.Reports.bind_quiet ?_ fun _ => .pure _
    refine (Traced.Quiet.lift (engine.resolve_blameless strategy)).bind_reports fun chosen => ?_
    refine (Gatherer.fetch_quiet hs ids).bind_reports fun products => ?_
    exact (Gatherer.gatherAll_reports hq hs products).bind_quiet fun _ => .pure _
  | gather id => exact (Gatherer.gather_reports hq hs id).bind_quiet fun _ => .pure _
  | gatherAll ids =>
    refine (Gatherer.fetch_quiet hs ids).bind_reports fun products => ?_
    exact (Gatherer.gatherAll_reports hq hs products).bind_quiet fun _ => .pure _
  | fetch ids => exact ((Gatherer.fetch_quiet hs ids).bind fun _ => .pure _).reports
  | strategies => exact (Traced.Quiet.pure _).reports
  | analyzers => exact (Traced.Quiet.pure _).reports
  | referenceDay => exact (Traced.Quiet.pure _).reports

end Engine
end Scoring
end Appraisal
