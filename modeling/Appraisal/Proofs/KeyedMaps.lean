import Appraisal.Keyed
import Mathlib.Data.List.Nodup
import Mathlib.Tactic.Common

/-!
# Keyed maps

What a map answers after each of its operations, and how its entries and keys follow from the
answers. The lists of distinct text are described by their members and their order.
-/

namespace Appraisal
namespace Keyed
variable {β γ : Type}

lemma keys_ascending (m : Keyed β) : m.keys.Pairwise (· < ·) :=
  List.pairwise_map.mpr m.ascending

lemma keys_nodup (m : Keyed β) : m.keys.Nodup := by
  refine m.keys_ascending.imp ?_
  intro a b hab heq
  exact String.lt_irrefl a (heq ▸ hab)

/-- An entry is what its key answers, because no other entry has the key. -/
lemma lookup_of_mem {key : String} {value : β} :
    ∀ {entries : List (String × β)}, (entries.map (·.1)).Nodup → (key, value) ∈ entries →
      entries.lookup key = some value
  | (k, v) :: rest, hn, hm => by
    rw [List.map_cons, List.nodup_cons] at hn
    rcases List.mem_cons.mp hm with heq | hm
    · rw [← heq]
      exact List.lookup_cons_self
    · have hne : key ≠ k := by
        intro heq
        exact hn.1 (heq ▸ List.mem_map.mpr ⟨(key, value), hm, rfl⟩)
      rw [List.lookup_cons, beq_eq_false_iff_ne.mpr hne]
      exact lookup_of_mem hn.2 hm

lemma mem_of_lookup {key : String} {value : β} :
    ∀ {entries : List (String × β)}, entries.lookup key = some value → (key, value) ∈ entries
  | (k, v) :: rest, h => by
    rw [List.lookup_cons] at h
    by_cases hk : key = k
    · subst hk
      rw [beq_self_eq_true, Option.some.injEq] at h
      exact h ▸ List.mem_cons_self
    · rw [beq_eq_false_iff_ne.mpr hk] at h
      exact List.mem_cons_of_mem _ (mem_of_lookup h)

/-- The entries are the answers. -/
lemma mem_entries_iff (m : Keyed β) {key : String} {value : β} :
    (key, value) ∈ m.entries ↔ m.get? key = some value :=
  ⟨lookup_of_mem m.keys_nodup, mem_of_lookup⟩

lemma mem_keys_iff (m : Keyed β) {key : String} :
    key ∈ m.keys ↔ ∃ value, m.get? key = some value := by
  simp only [keys, List.mem_map, Prod.exists, exists_and_right, exists_eq_right, mem_entries_iff]

@[simp]
lemma get?_empty (key : String) : (empty : Keyed β).get? key = none := rfl

lemma get?_insert (m : Keyed β) (key other : String) (value : β) :
    (m.insert key value).get? other = if other = key then some value else m.get? other := by
  split
  · rename_i h
    exact h ▸ get?_insert_self m key value
  · exact get?_insert_of_ne m value ‹_›

lemma lookup_filter_fst (p : String → Bool) (key : String) :
    ∀ entries : List (String × β),
      (entries.filter fun e => p e.1).lookup key = if p key then entries.lookup key else none
  | [] => by simp
  | (k, v) :: rest => by
    have ih := lookup_filter_fst p key rest
    by_cases hk : key = k
    · subst hk
      cases hp : p key <;> simp [hp, ih]
    · cases hp : p k <;> simp [hp, ih, List.lookup_cons, beq_eq_false_iff_ne.mpr hk]

lemma get?_restrict (m : Keyed β) (keys : List String) (key : String) :
    (m.restrict keys).get? key = if key ∈ keys then m.get? key else none := by
  have h := lookup_filter_fst (fun k => keys.contains k) key m.entries
  simp only [List.contains_eq_mem, decide_eq_true_eq] at h
  simpa only [restrict, get?, List.contains_eq_mem] using h

/-! ### Maps of pairs -/

lemma get?_foldl_insert (pairs : List (String × β)) (m : Keyed β) (key : String) :
    (pairs.foldl (fun m pair => m.insert pair.1 pair.2) m).get? key =
      (pairs.reverse.lookup key).or (m.get? key) := by
  induction pairs generalizing m with
  | nil => rfl
  | cons pair rest ih =>
    obtain ⟨k, v⟩ := pair
    rw [List.foldl_cons, ih, List.reverse_cons, List.lookup_append, get?_insert, Option.or_assoc]
    by_cases hk : key = k
    · simp [hk]
    · simp [hk, List.lookup_cons, beq_eq_false_iff_ne.mpr hk]

/-- Of two pairs with one key the later one counts. -/
lemma get?_ofList (pairs : List (String × β)) (key : String) :
    (ofList pairs).get? key = pairs.reverse.lookup key := by
  rw [ofList, get?_foldl_insert, get?_empty, Option.or_none]

lemma get?_ofList_eq_none_iff (pairs : List (String × β)) (key : String) :
    (ofList pairs).get? key = none ↔ key ∉ pairs.map (·.1) := by
  rw [get?_ofList, List.lookup_eq_none_iff]
  simp only [List.mem_reverse, List.mem_map, not_exists, not_and, bne_iff_ne, ne_eq]
  exact ⟨fun h e he heq => h e he heq.symm, fun h e he heq => h e he heq.symm⟩

lemma mem_of_get?_ofList {pairs : List (String × β)} {key : String} {value : β}
    (h : (ofList pairs).get? key = some value) : (key, value) ∈ pairs := by
  rw [get?_ofList] at h
  exact List.mem_reverse.mp (mem_of_lookup h)

/-- When pairs with one key have one value, every pair is an answer. -/
lemma get?_ofList_of_mem {pairs : List (String × β)} {key : String} {value : β}
    (hone : ∀ v, (key, v) ∈ pairs → v = value) (hmem : (key, value) ∈ pairs) :
    (ofList pairs).get? key = some value := by
  cases h : (ofList pairs).get? key with
  | none =>
    rw [get?_ofList_eq_none_iff] at h
    exact absurd (List.mem_map.mpr ⟨_, hmem, rfl⟩) h
  | some v => rw [hone v (mem_of_get?_ofList h)]

lemma key_of_get?_byKey {key : β → String} {values : List β} {k : String} {value : β}
    (h : (byKey key values).get? k = some value) : value ∈ values ∧ key value = k := by
  obtain ⟨v, hv, heq⟩ := List.mem_map.mp (mem_of_get?_ofList h)
  obtain ⟨hk, rfl⟩ := Prod.mk.inj heq
  exact ⟨hv, hk⟩

/-- Of two values with one key the later one counts. -/
lemma get?_byKey (key : β → String) (values : List β) (k : String) :
    (byKey key values).get? k = values.reverse.find? (key · = k) := by
  rw [byKey, get?_ofList, ← List.map_reverse]
  induction values.reverse with
  | nil => rfl
  | cons value rest ih =>
    rw [List.map_cons, List.lookup_cons, List.find?_cons, ih]
    by_cases h : key value = k
    · simp [h]
    · simp [h, beq_eq_false_iff_ne.mpr (Ne.symm h)]

end Keyed

/-- A list is read item by item when every item can be read. -/
lemma mapM_eq_ok {β γ ε : Type} {read : β → Except ε γ} {value : β → γ} :
    ∀ {items : List β}, (∀ item ∈ items, read item = .ok (value item)) →
      items.mapM read = .ok (items.map value)
  | [], _ => rfl
  | item :: rest, h => by
    rw [List.mapM_cons, h item List.mem_cons_self,
      mapM_eq_ok fun other hother => h other (List.mem_cons_of_mem _ hother)]
    rfl

/-! ### Distinct text -/

lemma sortedDistinct_ascending (texts : List String) : (sortedDistinct texts).Pairwise (· < ·) :=
  Keyed.keys_ascending _

lemma sortedDistinct_nodup (texts : List String) : (sortedDistinct texts).Nodup :=
  Keyed.keys_nodup _

@[simp]
lemma mem_sortedDistinct {text : String} {texts : List String} :
    text ∈ sortedDistinct texts ↔ text ∈ texts := by
  rw [sortedDistinct, Keyed.mem_keys_iff]
  constructor
  · rintro ⟨value, h⟩
    simpa using Keyed.mem_of_get?_ofList h
  · intro h
    refine ⟨(), Keyed.get?_ofList_of_mem (fun _ _ => rfl) ?_⟩
    simpa using h

/-- Ascending texts are settled by which texts they are. -/
lemma eq_of_ascending {xs ys : List String} (hx : xs.Pairwise (· < ·)) (hy : ys.Pairwise (· < ·))
    (h : ∀ text, text ∈ xs ↔ text ∈ ys) : xs = ys := by
  have hne : ∀ {a b : String}, a < b → a ≠ b := fun hab heq => String.lt_irrefl _ (heq ▸ hab)
  refine List.Perm.eq_of_pairwise ?_ hx hy
    ((List.perm_ext_iff_of_nodup (hx.imp hne) (hy.imp hne)).mpr h)
  intro a b _ _ hab hba
  exact absurd (String.lt_trans hab hba) (String.lt_irrefl a)

lemma Keyed.keys_eq_sortedDistinct {β : Type} {m : Keyed β} {texts : List String}
    (h : ∀ key, key ∈ m.keys ↔ key ∈ texts) : m.keys = sortedDistinct texts := by
  refine eq_of_ascending m.keys_ascending (sortedDistinct_ascending texts) ?_
  intro key
  rw [h, mem_sortedDistinct]

@[simp]
lemma mem_distinct {text : String} {texts : List String} : text ∈ distinct texts ↔ text ∈ texts := by
  induction texts with
  | nil => rfl
  | cons t rest ih =>
    simp only [distinct, List.mem_cons, List.mem_filter, ih, decide_eq_true_eq, ne_eq]
    by_cases h : text = t <;> simp [h]

/-- The distinct texts stand in the order in which they come first. -/
lemma distinct_pairwise_idxOf (texts : List String) :
    (distinct texts).Pairwise fun a b => texts.idxOf a < texts.idxOf b := by
  induction texts with
  | nil => exact .nil
  | cons t rest ih =>
    rw [distinct, List.pairwise_cons]
    constructor
    · intro other hother
      have hne : t ≠ other := by
        rintro rfl
        simp at hother
      rw [List.idxOf_cons_self, List.idxOf_cons_ne _ hne]
      exact Nat.succ_pos _
    · refine (ih.filter _).imp_of_mem ?_
      intro a b ha hb hlt
      have hne : ∀ {x}, x ∈ (distinct rest).filter (· ≠ t) → t ≠ x := by
        rintro x hx rfl
        simp at hx
      rw [List.idxOf_cons_ne _ (hne ha), List.idxOf_cons_ne _ (hne hb)]
      exact Nat.succ_lt_succ hlt

end Appraisal
