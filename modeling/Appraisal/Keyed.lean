/-!
# Keyed values

Finite maps from text to values, and the lists of distinct text that go with them. The entries are
kept in ascending order of their keys, so a map has one form only.
-/

namespace Appraisal

/-- Values by key, in ascending order of the keys. -/
structure Keyed (β : Type) where
  entries : List (String × β)
  ascending : entries.Pairwise fun a b => a.1 < b.1

namespace Keyed
variable {β γ : Type}

/-- Puts a value in its place; a value that is there under the same key gives way. -/
def put (key : String) (value : β) : List (String × β) → List (String × β)
  | [] => [(key, value)]
  | (k, v) :: rest =>
    if key < k then (key, value) :: (k, v) :: rest
    else if k < key then (k, v) :: put key value rest
    else (key, value) :: rest

theorem fst_of_mem_put {key : String} {value : β} {e : String × β} :
    ∀ {entries : List (String × β)}, e ∈ put key value entries → e.1 = key ∨ e ∈ entries
  | [], h => by
    simp only [put, List.mem_singleton] at h
    exact .inl (h ▸ rfl)
  | (k, v) :: rest, h => by
    simp only [put] at h
    split at h
    · rcases List.mem_cons.mp h with rfl | h
      · exact .inl rfl
      · exact .inr h
    · split at h
      · rcases List.mem_cons.mp h with rfl | h
        · exact .inr List.mem_cons_self
        · exact (fst_of_mem_put h).imp id (List.mem_cons_of_mem _)
      · rcases List.mem_cons.mp h with rfl | h
        · exact .inl rfl
        · exact .inr (List.mem_cons_of_mem _ h)

/-- Keys that neither precedes the other are the same. -/
theorem eq_of_not_lt {a b : String} (hab : ¬a < b) (hba : ¬b < a) : a = b :=
  String.le_antisymm (String.not_lt.mp hba) (String.not_lt.mp hab)

theorem put_ascending (key : String) (value : β) :
    ∀ {entries : List (String × β)}, entries.Pairwise (fun a b => a.1 < b.1) →
      (put key value entries).Pairwise fun a b => a.1 < b.1
  | [], _ => by simp [put]
  | (k, v) :: rest, h => by
    have hrest := List.pairwise_cons.mp h
    simp only [put]
    split
    · rename_i hlt
      refine List.pairwise_cons.mpr ⟨fun e he => ?_, h⟩
      rcases List.mem_cons.mp he with rfl | he
      · exact hlt
      · exact String.lt_trans hlt (hrest.1 e he)
    · rename_i hnot
      split
      · rename_i hgt
        refine List.pairwise_cons.mpr ⟨fun e he => ?_, put_ascending key value hrest.2⟩
        rcases fst_of_mem_put he with heq | he
        · exact heq ▸ hgt
        · exact hrest.1 e he
      · rename_i hnot'
        have heq : key = k := eq_of_not_lt hnot hnot'
        exact List.pairwise_cons.mpr ⟨fun e he => heq ▸ hrest.1 e he, hrest.2⟩

def empty : Keyed β := ⟨[], .nil⟩

def insert (m : Keyed β) (key : String) (value : β) : Keyed β :=
  ⟨put key value m.entries, put_ascending key value m.ascending⟩

def get? (m : Keyed β) (key : String) : Option β := m.entries.lookup key

def contains (m : Keyed β) (key : String) : Bool := (m.get? key).isSome

def keys (m : Keyed β) : List String := m.entries.map (·.1)

def values (m : Keyed β) : List β := m.entries.map (·.2)

def map (f : β → γ) (m : Keyed β) : Keyed γ :=
  ⟨m.entries.map fun e => (e.1, f e.2), m.ascending.map _ fun _ _ h => h⟩

/-- The part of a map that belongs to some keys. -/
def restrict (m : Keyed β) (keys : List String) : Keyed β :=
  ⟨m.entries.filter fun e => keys.contains e.1, m.ascending.filter _⟩

/-- The map of some pairs; of two pairs with one key the later one counts. -/
def ofList (pairs : List (String × β)) : Keyed β :=
  pairs.foldl (fun m pair => m.insert pair.1 pair.2) empty

/-- The map of some values, each under its own key. -/
def byKey (key : β → String) (values : List β) : Keyed β :=
  ofList (values.map fun value => (key value, value))

theorem lookup_put_self (key : String) (value : β) :
    ∀ entries : List (String × β), (put key value entries).lookup key = some value
  | [] => by simp [put]
  | (k, v) :: rest => by
    simp only [put]
    split
    · simp
    · split
      · rename_i hgt
        have hne : (key == k) = false := by
          simp only [beq_eq_false_iff_ne]
          rintro rfl
          exact String.lt_irrefl key hgt
        simp only [List.lookup_cons, hne]
        exact lookup_put_self key value rest
      · simp

theorem lookup_put_of_ne {key other : String} (value : β) (h : other ≠ key) :
    ∀ entries : List (String × β), (put key value entries).lookup other = entries.lookup other
  | [] => by simp [put, List.lookup_cons, beq_eq_false_iff_ne.mpr h]
  | (k, v) :: rest => by
    simp only [put]
    split
    · rw [List.lookup_cons, beq_eq_false_iff_ne.mpr h]
    · rename_i hnot
      split
      · rw [List.lookup_cons, List.lookup_cons, lookup_put_of_ne value h rest]
      · rename_i hnot'
        have heq : key = k := eq_of_not_lt hnot hnot'
        subst heq
        rw [List.lookup_cons, List.lookup_cons, beq_eq_false_iff_ne.mpr h]

/-- A key answers with the value that was put there last. -/
theorem get?_insert_self (m : Keyed β) (key : String) (value : β) :
    (m.insert key value).get? key = some value := lookup_put_self key value m.entries

/-- Putting a value under one key leaves what the other keys answer. -/
theorem get?_insert_of_ne (m : Keyed β) {key other : String} (value : β) (h : other ≠ key) :
    (m.insert key value).get? other = m.get? other := lookup_put_of_ne value h m.entries

end Keyed

/-- The different texts of a list in ascending order. -/
def sortedDistinct (texts : List String) : List String :=
  (Keyed.ofList (texts.map fun text => (text, ()))).keys

/-- The different texts of a list in the order in which they come first. -/
def distinct : List String → List String
  | [] => []
  | text :: rest => text :: (distinct rest).filter (· ≠ text)

end Appraisal
