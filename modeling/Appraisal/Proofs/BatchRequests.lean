import Appraisal.Double
import Appraisal.Proofs.Gathering
import Appraisal.Settings

/-!
# What a batch asks for

A batch asks the sources for its products once, and once a source for the records of all of them. It makes these
requests in a fixed order and stops at the first that fails.
-/

namespace Appraisal
variable {α β γ : Type}

/-- Whether a request asks a source for records, and not the queue for a refresh. -/
def Call.isLookup : Call → Bool
  | .refresh _ => false
  | _ => true

/-- The requests for the records of some catalog numbers. -/
def Call.batches (keys : List String) : List Call :=
  [.batch .guide keys, .batch .sales keys, .batch .discussion keys, .batch .entry keys]

/-- The requests that a computation makes to the sources, in order. -/
def Traced.lookups (x : Traced β) : List Call := x.calls.filter Call.isLookup

/-- How a result fails, if it does. -/
def failure? : Except Failure β → Option Failure
  | .error e => some e
  | .ok _ => none

lemma eq_error_of_failure? {result : Except Failure β} {e : Failure} (h : failure? result = some e) :
    result = .error e := by
  cases result with
  | error e' => exact congrArg _ (Option.some.inj h)
  | ok a => cases h

namespace Sources
variable (s : Sources α)

/-- How the sources fail on a request, if they do. -/
def failure? : Call → Option Failure
  | .product id => Appraisal.failure? (s.product id)
  | .products ids => Appraisal.failure? (s.products ids)
  | .single .guide key => Appraisal.failure? (s.guide key)
  | .single .sales key => Appraisal.failure? (s.sales key)
  | .single .discussion key => Appraisal.failure? (s.discussion key)
  | .single .entry key => Appraisal.failure? (s.entry key)
  | .batch .guide keys => Appraisal.failure? (s.guides keys)
  | .batch .sales keys => Appraisal.failure? (s.salesOf keys)
  | .batch .discussion keys => Appraisal.failure? (s.discussions keys)
  | .batch .entry keys => Appraisal.failure? (s.entries keys)
  | .refresh _ => none

/-- The requests of a plan up to the first that fails, that one included. -/
def untilFailure : List Call → List Call
  | [] => []
  | call :: rest => if (s.failure? call).isSome then [call] else call :: untilFailure rest

variable {s} {plan : List Call} {call : Call}

lemma mem_of_mem_untilFailure (h : call ∈ s.untilFailure plan) : call ∈ plan := by
  induction plan with
  | nil => exact h
  | cons first rest ih =>
    unfold untilFailure at h
    split at h
    · rw [List.mem_singleton] at h
      exact h ▸ List.mem_cons_self
    · rcases List.mem_cons.mp h with rfl | h
      · exact List.mem_cons_self
      · exact List.mem_cons_of_mem _ (ih h)

lemma untilFailure_singleton : s.untilFailure [call] = [call] := by
  unfold untilFailure
  split <;> rfl

variable (s plan) in
lemma length_untilFailure_le : (s.untilFailure plan).length ≤ plan.length := by
  induction plan with
  | nil => exact Nat.le_refl 0
  | cons first rest ih =>
    unfold untilFailure
    split
    · exact Nat.succ_le_succ (Nat.zero_le _)
    · exact Nat.succ_le_succ ih

/-- A request that fails is the last, and the first of the plan that fails. -/
lemma last_of_fails (h : call ∈ s.untilFailure plan) {e : Failure} (he : s.failure? call = some e) :
    (s.untilFailure plan).getLast? = some call ∧ plan.findSome? s.failure? = some e := by
  induction plan with
  | nil => cases h
  | cons first rest ih =>
    rw [untilFailure] at h ⊢
    cases hfirst : s.failure? first with
    | some e' =>
      simp only [hfirst, Option.isSome_some, if_true, List.mem_singleton] at h ⊢
      subst h
      rw [he] at hfirst
      exact ⟨rfl, by rw [List.findSome?_cons, he]⟩
    | none =>
      simp only [hfirst, Option.isSome_none, Bool.false_eq_true, if_false] at h ⊢
      have hrest : call ∈ s.untilFailure rest := by
        rcases List.mem_cons.mp h with rfl | h
        · rw [he] at hfirst
          cases hfirst
        · exact h
      obtain ⟨hlast, hfound⟩ := ih hrest
      refine ⟨?_, by rw [List.findSome?_cons, hfirst, hfound]⟩
      rw [List.getLast?_cons, hlast]
      rfl

end Sources

namespace Traced

/-- Whether a computation makes the lookups of a plan up to the first that fails, and then fails as that does. -/
structure Follows (x : Traced β) (s : Sources α) (plan : List Call) : Prop where
  lookups : x.lookups = s.untilFailure plan
  result : ∀ e, plan.findSome? s.failure? = some e → x.result = .error e

variable {s : Sources α} {plan : List Call}

lemma lookups_bind_of_ok {x : Traced β} {a : β} (h : x.result = .ok a) (f : β → Traced γ) :
    (x >>= f).lookups = x.lookups ++ (f a).lookups := by
  rw [lookups, calls_bind_of_ok h, List.filter_append]
  rfl

lemma lookups_bind_of_error {x : Traced β} {e : Failure} (h : x.result = .error e) (f : β → Traced γ) :
    (x >>= f).lookups = x.lookups := by
  rw [lookups, calls_bind_of_error h]
  rfl

lemma follows_nil {x : Traced β} (h : x.lookups = []) : x.Follows s [] := ⟨h, nofun⟩

/-- After a request that is the first of a plan, the rest of the plan is to be followed. -/
lemma Follows.request {call : Call} {result : Except Failure β} {f : β → Traced γ}
    (hcall : call.isLookup) (hfails : s.failure? call = failure? result) (hf : ∀ a, (f a).Follows s plan) :
    (Traced.request call result >>= f).Follows s (call :: plan) := by
  have hasked : (Traced.request call result).lookups = [call] := by simp [Traced.lookups, hcall]
  cases hresult : result with
  | error e =>
    rw [hresult] at hfails hasked
    constructor
    · rw [lookups_bind_of_error rfl, hasked, Sources.untilFailure, hfails]
      rfl
    · intro e' he'
      rw [List.findSome?_cons, hfails] at he'
      cases he'
      rfl
  | ok a =>
    rw [hresult] at hfails hasked
    constructor
    · rw [lookups_bind_of_ok rfl, hasked, (hf a).lookups, Sources.untilFailure, hfails]
      rfl
    · intro e he
      rw [List.findSome?_cons, hfails] at he
      rw [result_bind]
      exact (hf a).result e he

lemma Follows.fails_last {x : Traced β} (hx : x.Follows s plan) {call : Call} (hcall : call ∈ x.lookups)
    {e : Failure} (he : s.failure? call = some e) :
    x.lookups.getLast? = some call ∧ x.result = .error e := by
  rw [hx.lookups] at hcall ⊢
  obtain ⟨hlast, hfirst⟩ := Sources.last_of_fails hcall he
  exact ⟨hlast, hx.result e hfirst⟩

lemma mem_lookups {x : Traced β} {call : Call} (hcall : call ∈ x.calls) (h : call.isLookup) : call ∈ x.lookups :=
  List.mem_filter.mpr ⟨hcall, h⟩

/-- Steps that ask no source do not change which plan is followed. -/
lemma Follows.bind {x : Traced β} {f : β → Traced γ} (hx : x.Follows s plan) (hf : ∀ a, (f a).lookups = []) :
    (x >>= f).Follows s plan := by
  constructor
  · cases h : x.result with
    | error e => rw [lookups_bind_of_error h, hx.lookups]
    | ok a => rw [lookups_bind_of_ok h, hx.lookups, hf a, List.append_nil]
  · intro e he
    rw [result_bind, hx.result e he]
    rfl

end Traced

namespace Gatherer
variable (g : Gatherer α)

lemma records_follows (keys : List String) :
    (g.records keys).Follows g.sources (if keys = [] then [] else Call.batches keys) := by
  unfold records
  by_cases h : keys = []
  · simp only [h, List.isEmpty_nil, if_true]
    exact Traced.follows_nil rfl
  · simp only [List.isEmpty_iff, h, if_false]
    exact .request rfl rfl fun _ => .request rfl rfl fun _ => .request rfl rfl fun _ => .request rfl rfl fun _ =>
      Traced.follows_nil rfl

lemma gatherAll_follows [Arithmetic α] (products : List (Product α)) :
    let keys := sortedDistinct (products.filterMap (·.catalogNumber))
    (g.gatherAll products).Follows g.sources (if keys = [] then [] else Call.batches keys) := by
  intro keys
  refine (g.records_follows keys).bind fun records => ?_
  simp only
  split
  · rfl
  · rw [Traced.lookups_bind_of_ok (g.reportIncomplete_result _), Traced.lookups, reportIncomplete_calls]
    cases g.queue <;> rfl

/-- The product that a source found under an id; of two products with the id the later one counts. -/
def lastFound? (found : List (Product α)) (id : String) : Option (Product α) :=
  found.reverse.find? (·.id = id)

lemma lastFound?_isSome_iff {found : List (Product α)} {id : String} :
    (lastFound? found id).isSome ↔ ∃ p ∈ found, p.id = id := by
  simp [lastFound?]

@[simp]
lemma fetch_calls (ids : List String) : (g.fetch ids).calls = [.products (distinct ids)] := by
  unfold fetch
  cases h : g.sources.products (distinct ids) with
  | error e => rw [Traced.calls_bind_of_error h, Traced.calls_request]
  | ok found =>
    rw [Traced.calls_bind_of_ok h, Traced.calls_request]
    simp only
    split <;> rfl

lemma fetch_of_error {ids : List String} {e : Failure} (h : g.sources.products (distinct ids) = .error e) :
    (g.fetch ids).result = .error e := by
  unfold fetch
  rw [Traced.result_bind, Traced.result_request, h]
  rfl

/-- The products that are found come in the order of the request, unless one is not found. -/
lemma fetch_of_found {ids : List String} {found : List (Product α)}
    (h : g.sources.products (distinct ids) = .ok found) :
    (g.fetch ids).result =
      let unknown := (distinct ids).filter fun id => (lastFound? found id).isNone
      if unknown = [] then .ok ((distinct ids).filterMap (lastFound? found))
      else .error (.notFound s!"products {commaList unknown}") := by
  unfold fetch
  rw [Traced.result_bind, Traced.result_request, h]
  simp only [Except.bind, Keyed.contains, Keyed.get?_byKey, Option.not_isSome, List.isEmpty_iff]
  unfold lastFound?
  split <;> rfl

/-- When every id is found, the products come in the order of the request. -/
lemma fetch_of_known {ids : List String} {found : List (Product α)}
    (h : g.sources.products (distinct ids) = .ok found) (hknown : ∀ id ∈ ids, ∃ p ∈ found, p.id = id) :
    (g.fetch ids).result = .ok ((distinct ids).filterMap (lastFound? found)) := by
  have hnone : (distinct ids).filter (fun id => (lastFound? found id).isNone) = [] := by
    rw [List.filter_eq_nil_iff]
    intro id hid
    rw [Bool.not_eq_true, Option.isNone_eq_false_iff, lastFound?_isSome_iff]
    exact hknown id (mem_distinct.mp hid)
  rw [g.fetch_of_found h]
  exact if_pos hnone

lemma fetch_of_unknown {ids : List String} {found : List (Product α)}
    (h : g.sources.products (distinct ids) = .ok found) (hunknown : ∃ id ∈ ids, ∀ p ∈ found, p.id ≠ id) :
    (g.fetch ids).result = .error (.notFound
      s!"products {commaList ((distinct ids).filter fun id => (lastFound? found id).isNone)}") := by
  obtain ⟨id, hid, hnone⟩ := hunknown
  have hmissing : id ∈ (distinct ids).filter fun id => (lastFound? found id).isNone := by
    rw [List.mem_filter, mem_distinct, ← Option.not_isSome, Bool.not_eq_true', Bool.eq_false_iff, Ne,
      lastFound?_isSome_iff]
    exact ⟨hid, fun ⟨p, hp, heq⟩ => hnone p hp heq⟩
  rw [g.fetch_of_found h]
  exact if_neg (List.ne_nil_of_mem hmissing)

/-- The requests for the records of some products, once these are fetched. -/
def recordPlan (ids : List String) : List Call :=
  match (g.fetch ids).result with
  | .error _ => []
  | .ok products =>
    let keys := sortedDistinct (products.filterMap (·.catalogNumber))
    if keys = [] then [] else Call.batches keys

lemma recordPlan_eq_nil_or (ids : List String) :
    g.recordPlan ids = [] ∨ ∃ keys, g.recordPlan ids = Call.batches keys := by
  unfold recordPlan
  split
  · exact .inl rfl
  · simp only
    split
    · exact .inl rfl
    · exact .inr ⟨_, rfl⟩

lemma recordPlan_of_error {ids : List String} {e : Failure} (h : (g.fetch ids).result = .error e) :
    g.recordPlan ids = [] := by
  rw [recordPlan, h]

/-- When all ids are found, the records are asked for under the catalog numbers of their products. -/
lemma recordPlan_of_found {ids : List String} {found : List (Product α)}
    (h : g.sources.products (distinct ids) = .ok found) (hall : ∀ id ∈ ids, ∃ p ∈ found, p.id = id) :
    ∃ keys, keys.Pairwise (· < ·) ∧
      (∀ key, key ∈ keys ↔ ∃ id ∈ ids, ∃ p, lastFound? found id = some p ∧ p.catalogNumber = some key) ∧
      g.recordPlan ids = if keys = [] then [] else Call.batches keys := by
  refine ⟨_, sortedDistinct_ascending _, fun key => ?_, by rw [recordPlan, g.fetch_of_known h hall]⟩
  simp only [mem_sortedDistinct, List.mem_filterMap, mem_distinct]
  constructor
  · rintro ⟨p, ⟨id, hid, hp⟩, hkey⟩
    exact ⟨id, hid, p, hp, hkey⟩
  · rintro ⟨id, hid, p, hp, hkey⟩
    exact ⟨p, ⟨id, hid, hp⟩, hkey⟩

end Gatherer

namespace Engine
variable [Arithmetic α] [NumberText α] (engine : Engine α)

lemma analyzeAll_of_unresolved {strategy : Option String} {e : Failure}
    (h : engine.resolve strategy = .error e) (ids : List String) :
    engine.analyzeAll ids strategy = ⟨[], .error e⟩ := by
  unfold analyzeAll
  rw [h]
  rfl

section Resolved
variable {engine} {strategy : Option String} {chosen : Strategy α} {ids : List String}
  (hchosen : engine.resolve strategy = .ok chosen)
include hchosen

/-- A batch asks for its products and then for their records, up to the first request that fails. -/
lemma analyzeAll_follows : (engine.analyzeAll ids strategy).Follows engine.gatherer.sources
    (.products (distinct ids) :: engine.gatherer.recordPlan ids) := by
  have hfetched : (engine.gatherer.fetch ids).lookups = [.products (distinct ids)] := by
    rw [Traced.lookups, Gatherer.fetch_calls]
    rfl
  unfold analyzeAll
  cases hfetch : (engine.gatherer.fetch ids).result with
  | error e =>
    rw [Gatherer.recordPlan_of_error _ hfetch]
    constructor
    · rw [Traced.lookups_bind_of_ok hchosen, Traced.lookups_bind_of_error hfetch, hfetched]
      exact Sources.untilFailure_singleton.symm
    · intro e' he'
      have hfails : Appraisal.failure? (engine.gatherer.sources.products (distinct ids)) = some e' := by
        simpa [Sources.failure?] using he'
      rw [Traced.result_bind, Traced.result_lift, hchosen, Except.bind, Traced.result_bind,
        engine.gatherer.fetch_of_error (eq_error_of_failure? hfails)]
      rfl
  | ok products =>
    -- The request went through, so what follows in the plan is up to the records.
    have hnone : engine.gatherer.sources.failure? (.products (distinct ids)) = none := by
      cases hfound : engine.gatherer.sources.products (distinct ids) with
      | error e =>
        rw [engine.gatherer.fetch_of_error hfound] at hfetch
        cases hfetch
      | ok found => rw [Sources.failure?, hfound, Appraisal.failure?]
    have hplan : (engine.gatherer.gatherAll products).Follows engine.gatherer.sources
        (engine.gatherer.recordPlan ids) := by
      rw [Gatherer.recordPlan, hfetch]
      exact engine.gatherer.gatherAll_follows products
    have hrest := hplan.bind (f := fun evidence =>
      pure (evidence.values.foldlM (fun b e => b.add e.productId (engine.score chosen e)) (Batch.empty : Batch α)))
      fun _ => rfl
    constructor
    · rw [Traced.lookups_bind_of_ok hchosen, Traced.lookups_bind_of_ok hfetch, hfetched, hrest.lookups,
        Sources.untilFailure, hnone]
      rfl
    · intro e he
      rw [List.findSome?_cons, hnone] at he
      rw [Traced.result_bind, Traced.result_lift, hchosen, Except.bind, Traced.result_bind, hfetch]
      exact hrest.result e he

lemma lookups_of_failed_products {e : Failure}
    (h : engine.gatherer.sources.products (distinct ids) = .error e) :
    (engine.analyzeAll ids strategy).lookups = [.products (distinct ids)] := by
  rw [(analyzeAll_follows hchosen).lookups,
    engine.gatherer.recordPlan_of_error (engine.gatherer.fetch_of_error h)]
  exact Sources.untilFailure_singleton

variable {found : List (Product α)} (hfound : engine.gatherer.sources.products (distinct ids) = .ok found)
include hfound

lemma lookups_of_unknown (hunknown : ∃ id ∈ ids, ∀ p ∈ found, p.id ≠ id) :
    (engine.analyzeAll ids strategy).lookups = [.products (distinct ids)] := by
  rw [(analyzeAll_follows hchosen).lookups,
    engine.gatherer.recordPlan_of_error (engine.gatherer.fetch_of_unknown hfound hunknown)]
  exact Sources.untilFailure_singleton

lemma lookups_of_found (hall : ∀ id ∈ ids, ∃ p ∈ found, p.id = id) :
    ∃ keys : List String, keys.Pairwise (· < ·) ∧
      (∀ key, key ∈ keys ↔
        ∃ id ∈ ids, ∃ p, Gatherer.lastFound? found id = some p ∧ p.catalogNumber = some key) ∧
      (engine.analyzeAll ids strategy).lookups = .products (distinct ids) ::
        engine.gatherer.sources.untilFailure (if keys = [] then [] else Call.batches keys) := by
  obtain ⟨keys, hascending, hkeys, hplan⟩ := engine.gatherer.recordPlan_of_found hfound hall
  refine ⟨keys, hascending, hkeys, ?_⟩
  rw [(analyzeAll_follows hchosen).lookups, hplan, Sources.untilFailure, Sources.failure?, hfound]
  rfl

end Resolved

lemma analyzeAll_plan (ids : List String) (strategy : Option String) :
    ∃ plan, (engine.analyzeAll ids strategy).Follows engine.gatherer.sources plan ∧ plan.length ≤ 5 ∧
      ∀ call ∈ plan, (∀ id, call ≠ .product id) ∧ ∀ kind key, call ≠ .single kind key := by
  cases hresolve : engine.resolve strategy with
  | error e =>
    rw [engine.analyzeAll_of_unresolved hresolve]
    exact ⟨[], Traced.follows_nil rfl, Nat.zero_le 5, nofun⟩
  | ok chosen =>
    refine ⟨_, analyzeAll_follows hresolve, ?_⟩
    obtain hnil | ⟨keys, hkeys⟩ := engine.gatherer.recordPlan_eq_nil_or ids
    · rw [hnil]
      simp
    · rw [hkeys, Call.batches]
      simp

lemma analyzeAll_batches (ids : List String) (strategy : Option String) :
    ∀ call ∈ (engine.analyzeAll ids strategy).calls,
      (∀ id, call ≠ .product id) ∧ ∀ kind key, call ≠ .single kind key := by
  obtain ⟨plan, hfollows, -, hkinds⟩ := engine.analyzeAll_plan ids strategy
  intro call hcall
  by_cases hlookup : call.isLookup
  · have hmem := Traced.mem_lookups hcall hlookup
    rw [hfollows.lookups] at hmem
    exact hkinds call (Sources.mem_of_mem_untilFailure hmem)
  · constructor
    · rintro id rfl
      exact hlookup rfl
    · rintro kind key rfl
      exact hlookup rfl

/-- A batch costs at most five requests to the sources, however many products it has: one for the different ids in
the order in which they come first, and when all of them are found and one has a catalog number, one a source for
the records under the ascending catalog numbers. The first request that fails is the last, and its failure is that
of the batch. -/
theorem analyzeAll_lookups (ids : List String) (strategy : Option String) :
    let sources := engine.gatherer.sources
    let run := engine.analyzeAll ids strategy
    let wanted := distinct ids
    (wanted.Pairwise (fun a b => ids.idxOf a < ids.idxOf b) ∧ ∀ id, id ∈ wanted ↔ id ∈ ids) ∧
    (∀ e, engine.resolve strategy = .error e → run.calls = [] ∧ run.result = .error e) ∧
    (∀ chosen, engine.resolve strategy = .ok chosen →
      (∀ e, sources.products wanted = .error e → run.lookups = [.products wanted]) ∧
      ∀ found, sources.products wanted = .ok found →
        ((∃ id ∈ ids, ∀ p ∈ found, p.id ≠ id) → run.lookups = [.products wanted]) ∧
        ((∀ id ∈ ids, ∃ p ∈ found, p.id = id) → ∃ keys : List String, keys.Pairwise (· < ·) ∧
          (∀ key, key ∈ keys ↔
            ∃ id ∈ ids, ∃ p, Gatherer.lastFound? found id = some p ∧ p.catalogNumber = some key) ∧
          run.lookups = .products wanted ::
            sources.untilFailure (if keys = [] then [] else Call.batches keys))) ∧
    (∀ call ∈ run.lookups, ∀ e, sources.failure? call = some e →
      run.lookups.getLast? = some call ∧ run.result = .error e) ∧
    (∀ call ∈ run.calls, (∀ id, call ≠ .product id) ∧ ∀ kind key, call ≠ .single kind key) ∧
    run.lookups.length ≤ 5 := by
  intro sources run wanted
  obtain ⟨plan, hfollows, hlength, -⟩ := engine.analyzeAll_plan ids strategy
  refine ⟨⟨distinct_pairwise_idxOf ids, fun id => mem_distinct⟩, ?_, ?_, ?_,
    engine.analyzeAll_batches ids strategy, ?_⟩
  · intro e hresolve
    simp only [run, engine.analyzeAll_of_unresolved hresolve, and_self]
  · intro chosen hchosen
    refine ⟨fun e he => lookups_of_failed_products hchosen he, fun found hfound => ?_⟩
    exact ⟨lookups_of_unknown hchosen hfound, lookups_of_found hchosen hfound⟩
  · intro call hcall e he
    exact hfollows.fails_last hcall he
  · rw [hfollows.lookups]
    exact Nat.le_trans (Sources.length_untilFailure_le _ _) hlength

/-- Three sets in four listings. -/
def fourListings : List (Product Float) := [
  { id := "falcon", name := "Falcon", catalogNumber := some "75192-1" },
  { id := "brick", name := "Brick" },
  { id := "truck", name := "Truck", catalogNumber := some "42083-1" },
  { id := "resale", name := "Falcon, opened", catalogNumber := some "75192-1" }]

/-- Sources that find these listings. The discussions are down. -/
def halfDownSources : Sources Float where
  product _ := .ok none
  products _ := .ok fourListings
  guide _ := .ok none
  guides _ := .ok .empty
  sales _ := .ok none
  salesOf _ := .ok .empty
  discussion _ := .ok none
  discussions _ := .error (.database "discussions are down")
  entry _ := .ok none
  entries _ := .ok .empty

def halfDownEngine : Engine Float := .ofSettings {} ⟨2026, 7, 15, by decide⟩ halfDownSources false

theorem halfDownEngine_lookups :
    let run := halfDownEngine.analyzeAll ["resale", "falcon", "brick", "truck", "resale"] none
    let keys := ["42083-1", "75192-1"]
    (∃ chosen, halfDownEngine.resolve none = .ok chosen) ∧
    run.lookups = [.products ["resale", "falcon", "brick", "truck"], .batch .guide keys, .batch .sales keys,
      .batch .discussion keys] ∧
    run.result = .error (.database "discussions are down") := by
  intro run keys
  obtain ⟨chosen, hchosen⟩ : ∃ chosen, halfDownEngine.resolve none = .ok chosen := ⟨_, rfl⟩
  obtain ⟨-, -, hresolved, hfails, -, -⟩ :=
    halfDownEngine.analyzeAll_lookups ["resale", "falcon", "brick", "truck", "resale"] none
  obtain ⟨-, hfound⟩ := hresolved chosen hchosen
  obtain ⟨-, hall⟩ := hfound fourListings rfl
  obtain ⟨keys', hascending, hkeys, hlookups⟩ := hall (by simp [fourListings])
  have hnumbers : keys' = keys := by
    refine eq_of_ascending hascending (by decide) fun key => (hkeys key).trans ?_
    simpa [Gatherer.lastFound?, fourListings, keys, eq_comm, or_comm] using Or.inr
  rw [hnumbers] at hlookups
  exact ⟨⟨chosen, hchosen⟩, hlookups, (hfails (.batch .discussion keys) (hlookups ▸ by decide) _ rfl).2⟩

end Engine
end Appraisal
