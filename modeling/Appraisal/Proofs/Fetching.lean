import Appraisal.Proofs.BatchRequests

/-!
# Fetching products

A source answers a request for products in any order, and its answer may hold other products as well and several
with one id. What is fetched depends only on which ids come back, and on the last product that comes back under
each of them.
-/

namespace Appraisal
variable {α : Type}

/-- `listed` names the requested ids with a property, each once and in the order in which they are requested first. -/
structure ListsOnce (requested : List String) (property : String → Prop) (listed : List String) : Prop where
  mem : ∀ id, id ∈ listed ↔ id ∈ requested ∧ property id
  inOrder : listed.Pairwise fun a b => requested.idxOf a < requested.idxOf b

lemma listsOnce_filter_distinct {requested : List String} {property : String → Prop} {keep : String → Bool}
    (h : ∀ id, keep id ↔ property id) : ListsOnce requested property ((distinct requested).filter keep) := by
  constructor
  · intro id
    rw [List.mem_filter, mem_distinct, h]
  · apply List.Pairwise.filter
    exact distinct_pairwise_idxOf requested

namespace Gatherer
variable {found : List (Product α)} {id : String} {p : Product α}

/-- The last product with an id stands before products with other ids only. -/
lemma exists_append_of_lastFound? (h : lastFound? found id = some p) :
    p.id = id ∧ ∃ earlier later, found = earlier ++ p :: later ∧ ∀ q ∈ later, q.id ≠ id := by
  obtain ⟨hid, later, earlier, hfound, hlater⟩ := List.find?_eq_some_iff_append.mp h
  refine ⟨by simpa using hid, earlier.reverse, later.reverse, ?_, ?_⟩
  · rw [← List.reverse_inj, hfound]
    simp
  · intro q hq
    simpa using hlater q (List.mem_reverse.mp hq)

lemma id_of_lastFound? (h : lastFound? found id = some p) : p.id = id := (exists_append_of_lastFound? h).1

lemma ids_filterMap_lastFound? {wanted : List String} (h : ∀ id ∈ wanted, (lastFound? found id).isSome) :
    (wanted.filterMap (lastFound? found)).map (·.id) = wanted := by
  induction wanted with
  | nil => rfl
  | cons id rest ih =>
    obtain ⟨p, hp⟩ := Option.isSome_iff_exists.mp (h id List.mem_cons_self)
    have hrest := ih fun other hother => h other (List.mem_cons_of_mem _ hother)
    rw [List.filterMap_cons, hp, List.map_cons, hrest, id_of_lastFound? hp]

variable (g : Gatherer α) {ids : List String}

/-- For any answer of the source, products are fetched exactly when every requested id comes back. They have the
requested ids, each once and in the order of the request, and each is the last that came back under its id.
Otherwise the failure names the ids that did not come back, each once and in the order of the request. -/
theorem fetch_from_any_answer (h : g.sources.products (distinct ids) = .ok found) :
    ((∃ products, (g.fetch ids).result = .ok products) ↔ ∀ id ∈ ids, ∃ p ∈ found, p.id = id) ∧
    (∀ products, (g.fetch ids).result = .ok products →
      ListsOnce ids (fun _ => True) (products.map (·.id)) ∧
      ∀ p ∈ products, ∃ earlier later, found = earlier ++ p :: later ∧ ∀ q ∈ later, q.id ≠ p.id) ∧
    (∀ e, (g.fetch ids).result = .error e →
      ∃ unknown, e = .notFound s!"products {commaList unknown}" ∧
        ListsOnce ids (fun id => ∀ p ∈ found, p.id ≠ id) unknown) := by
  by_cases hknown : ∀ id ∈ ids, ∃ p ∈ found, p.id = id
  · have hfetched := g.fetch_of_known h hknown
    have hsome : ∀ id ∈ distinct ids, (lastFound? found id).isSome := by
      intro id hid
      exact lastFound?_isSome_iff.mpr (hknown id (mem_distinct.mp hid))
    refine ⟨iff_of_true ⟨_, hfetched⟩ hknown, ?_, ?_⟩
    · intro products hproducts
      rw [hfetched] at hproducts
      cases hproducts
      constructor
      · have hall : ListsOnce ids (fun _ => True) ((distinct ids).filter fun _ => true) :=
          listsOnce_filter_distinct fun _ => by simp
        rw [ids_filterMap_lastFound? hsome]
        simpa using hall
      · intro p hp
        obtain ⟨id, -, hlast⟩ := List.mem_filterMap.mp hp
        obtain ⟨rfl, hsplit⟩ := exists_append_of_lastFound? hlast
        exact hsplit
    · intro e he
      rw [hfetched] at he
      cases he
  · have hunknown : ∃ id ∈ ids, ∀ p ∈ found, p.id ≠ id := by
      simpa using hknown
    have hfailed := g.fetch_of_unknown h hunknown
    refine ⟨iff_of_false ?_ hknown, ?_, ?_⟩
    · rintro ⟨products, hproducts⟩
      rw [hfailed] at hproducts
      cases hproducts
    · intro products hproducts
      rw [hfailed] at hproducts
      cases hproducts
    · intro e he
      rw [hfailed] at he
      cases he
      refine ⟨_, rfl, listsOnce_filter_distinct fun id => ?_⟩
      rw [← Option.not_isSome, Bool.not_eq_true', Bool.eq_false_iff, Ne, lastFound?_isSome_iff]
      simp

/-- An answer that is in no order, has a listing that is not asked for, and two trucks under one id. -/
def untidyAnswer : List (Product Float) := [
  { id := "castle", name := "Castle" },
  { id := "truck", name := "Truck" },
  { id := "falcon", name := "Falcon" },
  { id := "truck", name := "Truck, boxed" }]

/-- It is what the source answers to every request for products. -/
def untidyGatherer : Gatherer Float where
  sources := { (⟨.empty, .empty, .empty, .empty, .empty⟩ : Collection Float).sources with
    products := fun _ => .ok untidyAnswer }
  queue := none
  asOf := ⟨2026, 10, 1, by decide⟩

theorem untidyGatherer_fetches :
    let ids := ["truck", "castle", "truck"]
    let more := ["plane", "truck", "ship", "plane"]
    untidyGatherer.sources.products (distinct ids) = .ok untidyAnswer ∧
    untidyGatherer.sources.products (distinct more) = .ok untidyAnswer ∧
    ((untidyGatherer.fetch ids).result = .ok [untidyAnswer[3], untidyAnswer[0]] ∧
      ListsOnce ids (fun _ => True) ["truck", "castle"]) ∧
    ∃ unknown, (untidyGatherer.fetch more).result = .error (.notFound s!"products {commaList unknown}") ∧
      s!"products {commaList unknown}" = "products plane, ship" ∧
      ListsOnce more (fun id => ∀ p ∈ untidyAnswer, p.id ≠ id) unknown := by
  intro ids more
  have hids : untidyGatherer.sources.products (distinct ids) = .ok untidyAnswer := rfl
  have hmore : untidyGatherer.sources.products (distinct more) = .ok untidyAnswer := rfl
  have hfetched : (untidyGatherer.fetch ids).result = .ok [untidyAnswer[3], untidyAnswer[0]] := rfl
  have hfailed : (untidyGatherer.fetch more).result = .error (.notFound "products plane, ship") := rfl
  obtain ⟨-, hproducts, -⟩ := untidyGatherer.fetch_from_any_answer hids
  obtain ⟨-, -, hfailure⟩ := untidyGatherer.fetch_from_any_answer hmore
  obtain ⟨unknown, htext, hunknown⟩ := hfailure _ hfailed
  refine ⟨hids, hmore, ⟨hfetched, (hproducts _ hfetched).1⟩, unknown, hfailed.trans ?_, ?_, hunknown⟩
  · rw [htext]
  · exact (Failure.notFound.inj htext).symm

end Gatherer
end Appraisal
