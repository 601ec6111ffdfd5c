import Appraisal.Proofs.KeyedMaps
import Appraisal.Scoring.Scorecard

/-!
# What a scorecard tells

A card gives a score when it has a component. The score carries the data points of the card, and its breakdown lists
the components, and the inputs that were not there. Which inputs a card declares and which components it has is put
together from its parts.
-/

namespace Appraisal.Scorecard
variable {α : Type} {card other : Scorecard α}

/-- The data points of a card in the order in which they were written. -/
def points (card : Scorecard α) : List (String × Json α) :=
  card.filterMap fun
    | .dataPoint key value => some (key, value)
    | _ => none

@[simp]
lemma points_nil : points ([] : Scorecard α) = [] := rfl

@[simp]
lemma points_slot (name : String) (present : Bool) :
    points (.slot name present :: card) = points card := rfl

@[simp]
lemma points_component (part : Component α) : points (.component part :: card) = points card := rfl

@[simp]
lemma points_reason (text : String) : points (.reason text :: card) = points card := rfl

@[simp]
lemma points_dataPoint (key : String) (value : Json α) :
    points (.dataPoint key value :: card) = (key, value) :: points card := rfl

@[simp]
lemma points_append : points (card ++ other) = points card ++ points other := List.filterMap_append

@[simp]
lemma points_given {β : Type} (x : Option β) (entries : β → Scorecard α) :
    points (given x entries) = x.elim [] fun y => points (entries y) := by
  cases x <;> rfl

@[simp]
lemma points_ite (p : Prop) [Decidable p] :
    points (if p then card else other) = if p then points card else points other := by
  split <;> rfl

/-- A key that is written with one value only has it. -/
lemma get?_dataPoints {key : String} {value : Json α} (hmem : (key, value) ∈ card.points)
    (hone : ∀ v, (key, v) ∈ card.points → v = value) : card.dataPoints.get? key = some value :=
  Keyed.get?_ofList_of_mem hone hmem

/-- The names and weights of the components of a card. -/
def labels (card : Scorecard α) : List (String × α) :=
  card.filterMap fun
    | .component part => some (part.name, part.weight)
    | _ => none

/-- The labels that are used, of labels of which it is known whether they are. -/
def used (labels : List ((String × α) × Bool)) : List (String × α) := (labels.filter (·.2)).map (·.1)

lemma used_sublist (labels : List ((String × α) × Bool)) : (used labels).Sublist (labels.map (·.1)) :=
  List.filter_sublist.map _

lemma used_eq_nil_iff {labels : List ((String × α) × Bool)} :
    used labels = [] ↔ ∀ label ∈ labels, label.2 = false := by
  simp [used, List.filter_eq_nil_iff]

/-- What a part of a card declares and finds: its inputs, and components with those labels that are used. -/
structure Writes (card : Scorecard α) (inputs : List (String × Bool)) (parts : List ((String × α) × Bool)) :
    Prop where
  slots : card.slots = inputs
  labels : card.labels = used parts

section Writes
variable {inputs inputs' : List (String × Bool)} {parts parts' : List ((String × α) × Bool)}
  {label : String × α}

lemma writes_nil : Writes ([] : Scorecard α) [] [] := ⟨rfl, rfl⟩

lemma Writes.slot (h : card.Writes inputs parts) {name : String} {present : Bool} :
    Writes (.slot name present :: card) ((name, present) :: inputs) parts :=
  ⟨congrArg (_ :: ·) h.slots, h.labels⟩

lemma Writes.reason (h : card.Writes inputs parts) {text : String} : Writes (.reason text :: card) inputs parts :=
  ⟨h.slots, h.labels⟩

lemma Writes.dataPoint (h : card.Writes inputs parts) {key : String} {value : Json α} :
    Writes (.dataPoint key value :: card) inputs parts := ⟨h.slots, h.labels⟩

lemma Writes.component (h : card.Writes inputs parts) {part : Component α} :
    Writes (.component part :: card) inputs (((part.name, part.weight), true) :: parts) :=
  ⟨h.slots, congrArg (_ :: ·) h.labels⟩

lemma Writes.append (h : card.Writes inputs parts) (h' : other.Writes inputs' parts') :
    Writes (card ++ other) (inputs ++ inputs') (parts ++ parts') := by
  constructor
  · unfold Scorecard.slots
    rw [List.filterMap_append]
    exact congrArg₂ (· ++ ·) h.slots h'.slots
  · unfold Scorecard.labels used
    rw [List.filterMap_append, List.filter_append, List.map_append]
    exact congrArg₂ (· ++ ·) h.labels h'.labels

/-- A component that is not found leaves no label. -/
lemma Writes.unused (h : card.Writes inputs parts) : card.Writes inputs (parts ++ [(label, false)]) :=
  ⟨h.slots, h.labels.trans (by simp [used])⟩

lemma Writes.ite {p : Prop} [Decidable p] (h : card.Writes inputs parts) (h' : other.Writes inputs parts) :
    Writes (if p then card else other) inputs parts := by
  split
  · exact h
  · exact h'

/-- Entries that a value gives rise to add no component when they add none for any value. -/
lemma Writes.remarks {β : Type} {x : Option β} {entries : β → Scorecard α}
    (h : ∀ y, (entries y).Writes [] []) : Writes (given x entries) [] [] := by
  cases x with
  | none => exact writes_nil
  | some y => exact h y

/-- A component that a value gives rise to is used when the value is there. -/
lemma Writes.given {β : Type} {x : Option β} {entries : β → Scorecard α}
    (h : ∀ y, (entries y).Writes [] [(label, true)]) : Writes (given x entries) [] [(label, x.isSome)] := by
  cases x with
  | none => exact ⟨rfl, rfl⟩
  | some y => exact h y

end Writes

lemma missing_eq : card.missing = (card.slots.filter fun slot => !slot.2).map (·.1) := by
  unfold missing
  induction card.slots with
  | nil => rfl
  | cons slot rest ih =>
    obtain ⟨name, present⟩ := slot
    cases present <;> simp [ih]

variable [Arithmetic α]

lemma labels_components : card.components.map (fun part => (part.name, part.weight)) = card.labels := by
  unfold components labels
  rw [List.map_filterMap]
  congr 1
  funext entry
  cases entry <;> rfl

/-- The labels of the components are among the declared ones. -/
lemma Writes.labels_sublist {inputs : List (String × Bool)} {parts : List ((String × α) × Bool)}
    (h : card.Writes inputs parts) :
    (card.components.map fun part => (part.name, part.weight)).Sublist (parts.map (·.1)) := by
  rw [labels_components, h.labels]
  exact used_sublist parts

lemma components_ne_nil {part : Component α} (h : Entry.component part ∈ card) : card.components ≠ [] :=
  List.ne_nil_of_mem (List.mem_filterMap.mpr ⟨_, h, rfl⟩)

/-- A card with a component has a score. -/
lemma exists_toScore? {part : Component α} (h : Entry.component part ∈ card) (formula : String) :
    ∃ s, card.toScore? formula = some s := by
  unfold toScore?
  rw [if_neg (by simpa using components_ne_nil h)]
  exact ⟨_, rfl⟩

lemma toScore?_eq_none_iff {formula : String} : card.toScore? formula = none ↔ card.labels = [] := by
  unfold toScore?
  rw [← labels_components, List.map_eq_nil_iff, ← List.isEmpty_iff]
  split <;> simp [*]

/-- What a score takes from its card. -/
lemma toScore?_eq_some {formula : String} {s : Score α} (h : card.toScore? formula = some s) :
    s.value = Arithmetic.clamp 0.0 100.0 card.total ∧ s.confidence = Arithmetic.clamp 0.0 1.0 card.confidence ∧
      ∃ b, s.breakdown = some b ∧ b.components = card.components ∧ b.total = Arithmetic.round card.total ∧
        b.missingData = card.missing := by
  unfold toScore? at h
  split at h
  · cases h
  · cases h
    exact ⟨rfl, rfl, _, rfl, rfl, rfl, rfl⟩

lemma dataPoints_of_toScore? {formula : String} {s : Score α} (h : card.toScore? formula = some s) :
    s.dataPoints = card.dataPoints := by
  unfold toScore? at h
  split at h
  · cases h
  · cases h
    rfl

end Appraisal.Scorecard
