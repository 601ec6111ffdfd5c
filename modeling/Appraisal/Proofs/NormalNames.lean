import Appraisal.Strategy.Registry
import Mathlib.Data.List.TakeWhile
import Mathlib.Tactic.Common

/-!
# Normal names

A name is recognized by its normal form, which is made by trimming, lowering, replacing the dividers and splitting, in
that order. The same words are found by lowering the whole name and splitting it at every divider.
-/

namespace Appraisal
namespace Text

/-- Lowering leaves the character alone, and no case rule looks past it. -/
structure Caseless (c : Char) : Prop where
  notIgnored : isCaseIgnorable c = false
  notCased : isCased c = false
  lowers : lowerLetter c = [c]
  notSigma : c ≠ 'Σ'

/-- The code points of the blanks. -/
def blankPoints : List Nat :=
  [9, 10, 11, 12, 13, 0x20, 0x85, 0xA0, 0x1680, 0x2000, 0x2001, 0x2002, 0x2003, 0x2004, 0x2005, 0x2006, 0x2007, 0x2008,
    0x2009, 0x200A, 0x2028, 0x2029, 0x202F, 0x205F, 0x3000]

lemma toNat_mem_blankPoints {c : Char} (h : isBlank c) : c.toNat ∈ blankPoints := by
  simp only [isBlank, Bool.or_eq_true, Bool.and_eq_true, decide_eq_true_eq, beq_iff_eq] at h
  generalize c.toNat = n at h ⊢
  simp only [blankPoints, List.mem_cons, List.not_mem_nil]
  omega

/-- Read off the case tables. -/
lemma blankPoints_caseless : ∀ n ∈ blankPoints, isCaseIgnorable (Char.ofNat n) = false ∧
    isCased (Char.ofNat n) = false ∧ lowerLetter (Char.ofNat n) = [Char.ofNat n] ∧ Char.ofNat n ≠ 'Σ' := by
  decide +kernel

lemma caseless_of_isBlank {c : Char} (h : isBlank c) : Caseless c := by
  have hc := blankPoints_caseless c.toNat (toNat_mem_blankPoints h)
  rw [Char.ofNat_toNat] at hc
  obtain ⟨hignored, hcased, hlower, hsigma⟩ := hc
  exact ⟨hignored, hcased, hlower, hsigma⟩

variable {c : Char} {cs before after blanks : List Char}

lemma startsCased_cons : startsCased (c :: cs) = if isCaseIgnorable c then startsCased cs else isCased c := by
  unfold startsCased
  cases h : isCaseIgnorable c <;> simp [h]

lemma startsCased_of_blanks (h : ∀ c ∈ blanks, isBlank c) : startsCased blanks = false := by
  cases blanks with
  | nil => rfl
  | cons c rest =>
    have hc := caseless_of_isBlank (h c List.mem_cons_self)
    rw [startsCased_cons, hc.notIgnored, hc.notCased]
    rfl

lemma startsCased_append_blanks (h : ∀ c ∈ blanks, isBlank c) : startsCased (cs ++ blanks) = startsCased cs := by
  induction cs with
  | nil => exact startsCased_of_blanks h
  | cons c rest ih => rw [List.cons_append, startsCased_cons, startsCased_cons, ih]

/-- Of what stands before, lowering reads only whether it ends in a cased letter. -/
lemma lowerAfter_congr (h : startsCased before = startsCased after) : lowerAfter before cs = lowerAfter after cs := by
  induction cs generalizing before after with
  | nil => rfl
  | cons c rest ih =>
    have hnext : startsCased (c :: before) = startsCased (c :: after) := by
      rw [startsCased_cons, startsCased_cons, h]
    simp only [lowerAfter, lowerSigma, h, ih hnext]

lemma lowerAfter_blanks (h : ∀ c ∈ blanks, isBlank c) :
    lowerAfter before (blanks ++ cs) = blanks ++ lowerAfter (blanks.reverse ++ before) cs := by
  induction blanks generalizing before with
  | nil => rfl
  | cons c rest ih =>
    have hc := caseless_of_isBlank (h c List.mem_cons_self)
    have hrest : ∀ c ∈ rest, isBlank c := fun d hd => h d (List.mem_cons_of_mem c hd)
    rw [List.cons_append, lowerAfter, if_neg hc.notSigma, hc.lowers, ih hrest]
    simp

lemma lowerAfter_append_blanks (h : ∀ c ∈ blanks, isBlank c) :
    lowerAfter before (cs ++ blanks) = lowerAfter before cs ++ blanks := by
  induction cs generalizing before with
  | nil =>
    have hblanks : lowerAfter before (blanks ++ []) = blanks ++ lowerAfter (blanks.reverse ++ before) [] :=
      lowerAfter_blanks h
    simpa [lowerAfter] using hblanks
  | cons c rest ih =>
    have hsigma : lowerSigma before (rest ++ blanks) = lowerSigma before rest := by
      rw [lowerSigma, lowerSigma, startsCased_append_blanks h]
    rw [List.cons_append, lowerAfter, lowerAfter, hsigma, ih, List.append_assoc]

/-- Blanks around a text neither change nor are changed when it is lowered. -/
lemma lower_between_blanks (hbefore : ∀ c ∈ before, isBlank c) (hafter : ∀ c ∈ after, isBlank c) :
    lower (before ++ cs ++ after) = before ++ lower cs ++ after := by
  have hstart : startsCased (before.reverse ++ []) = startsCased [] := by
    rw [List.append_nil]
    exact startsCased_of_blanks fun c hc => hbefore c (List.mem_reverse.mp hc)
  rw [lower, lowerAfter_append_blanks hafter, lowerAfter_blanks hbefore, lowerAfter_congr hstart]
  rfl

lemma exists_eq_trim (cs : List Char) : ∃ before after, cs = before ++ trim cs ++ after ∧
    (∀ c ∈ before, isBlank c) ∧ ∀ c ∈ after, isBlank c := by
  refine ⟨cs.takeWhile isBlank, ((trimLeft cs).reverse.takeWhile isBlank).reverse, ?_, ?_, ?_⟩
  · have hright : trim cs ++ ((trimLeft cs).reverse.takeWhile isBlank).reverse = trimLeft cs := by
      rw [trim, trimRight, ← List.reverse_append, List.takeWhile_append_dropWhile, List.reverse_reverse]
    rw [List.append_assoc, hright, trimLeft, List.takeWhile_append_dropWhile]
  · intro c hc
    exact List.mem_takeWhile_imp hc
  · intro c hc
    exact List.mem_takeWhile_imp (List.mem_reverse.mp hc)

/-- The pieces of a text between characters with a property, less the empty ones. -/
def pieces (divides : Char → Bool) (cs : List Char) : List (List Char) :=
  (cs.splitOnP divides).filter (!·.isEmpty)

section
variable {divides : Char → Bool} {xs : List Char}

lemma pieces_append_cons (h : divides c) : pieces divides (xs ++ c :: cs) = pieces divides xs ++ pieces divides cs := by
  rw [pieces, List.splitOnP_append_cons xs cs h, List.filter_append, pieces, pieces]

lemma pieces_cons_of_divides (h : divides c) : pieces divides (c :: cs) = pieces divides cs := by
  have hsplit : pieces divides ([] ++ c :: cs) = pieces divides [] ++ pieces divides cs := pieces_append_cons h
  simpa [pieces] using hsplit

lemma pieces_append_of_left (h : ∀ c ∈ xs, divides c) : pieces divides (xs ++ cs) = pieces divides cs := by
  induction xs with
  | nil => rfl
  | cons c rest ih =>
    rw [List.cons_append, pieces_cons_of_divides (h c List.mem_cons_self)]
    exact ih fun d hd => h d (List.mem_cons_of_mem c hd)

lemma pieces_append_of_right (h : ∀ c ∈ xs, divides c) : pieces divides (cs ++ xs) = pieces divides cs := by
  cases xs with
  | nil => rw [List.append_nil]
  | cons c rest =>
    have hrest : pieces divides rest = [] := by
      have hnone : pieces divides (rest ++ []) = pieces divides [] :=
        pieces_append_of_left fun d hd => h d (List.mem_cons_of_mem c hd)
      rw [List.append_nil] at hnone
      rw [hnone]
      simp [pieces]
    rw [pieces_append_cons (h c List.mem_cons_self), hrest, List.append_nil]

lemma not_divides_of_mem_splitOnPPrepend {current : List Char} (hcurrent : ∀ c ∈ current, divides c = false) :
    ∀ piece ∈ cs.splitOnPPrepend divides current, ∀ c ∈ piece, divides c = false := by
  induction cs generalizing current with
  | nil => simpa [List.splitOnPPrepend_nil] using hcurrent
  | cons c rest ih =>
    intro piece hpiece
    rw [List.splitOnPPrepend_cons_eq_if] at hpiece
    split at hpiece
    · rcases List.mem_cons.mp hpiece with rfl | hpiece
      · simpa using hcurrent
      · exact ih (by simp) piece hpiece
    · next hc =>
      apply ih _ piece hpiece
      intro d hd
      rcases List.mem_cons.mp hd with rfl | hd
      · simpa using hc
      · exact hcurrent d hd

lemma not_divides_of_mem_pieces : ∀ piece ∈ pieces divides cs, ∀ c ∈ piece, divides c = false := by
  intro piece hpiece
  have hmem := (List.mem_filter.mp hpiece).1
  rw [List.splitOnP_eq_splitOnPPrepend] at hmem
  exact not_divides_of_mem_splitOnPPrepend (by simp) piece hmem

lemma ne_nil_of_mem_pieces : ∀ piece ∈ pieces divides cs, piece ≠ [] := by
  intro piece hpiece
  simpa using (List.mem_filter.mp hpiece).2

end

end Text

namespace Registry
open Text

/-- What parts the words of a name. -/
def isDivider (c : Char) : Bool := isBlank c || c == '-' || c == '_'

lemma isBlank_separator (c : Char) : isBlank (separator c) = isDivider c := by
  unfold separator isDivider
  split
  · next h => rcases h with rfl | rfl <;> rfl
  · next h =>
    obtain ⟨hhyphen, hunderscore⟩ := not_or.mp h
    rw [beq_eq_false_iff_ne.mpr hhyphen, beq_eq_false_iff_ne.mpr hunderscore, Bool.or_false, Bool.or_false]

lemma separator_of_not_isDivider {c : Char} (h : isDivider c = false) : separator c = c := by
  unfold separator
  rw [if_neg]
  rintro (rfl | rfl) <;> cases h

lemma wordsAfter_map_separator (current cs : List Char) :
    wordsAfter current (cs.map separator) = (cs.splitOnPPrepend isDivider current).filter (!·.isEmpty) := by
  induction cs generalizing current with
  | nil => cases current <;> simp [wordsAfter, List.splitOnPPrepend_nil]
  | cons c rest ih =>
    rw [List.map_cons, wordsAfter, isBlank_separator, List.splitOnPPrepend_cons_eq_if]
    cases h : isDivider c with
    | false =>
      rw [separator_of_not_isDivider h]
      exact ih (c :: current)
    | true =>
      rw [if_pos rfl, if_pos rfl, ih, ← List.splitOnP_eq_splitOnPPrepend]
      cases current <;> simp

/-- The words of a name, lowered and split at white space, hyphens and underscores. -/
def nameParts (name : String) : List (List Char) := pieces isDivider (lower name.toList)

theorem nameWords_eq_nameParts (name : String) : nameWords name = nameParts name := by
  obtain ⟨before, after, hname, hbefore, hafter⟩ := exists_eq_trim name.toList
  have hdivider : ∀ blanks : List Char, (∀ c ∈ blanks, isBlank c) → ∀ c ∈ blanks, isDivider c := by
    intro blanks h c hc
    rw [isDivider, h c hc]
    rfl
  have hparts : nameParts name = pieces isDivider (lower (trim name.toList)) := by
    rw [nameParts, hname, lower_between_blanks hbefore hafter, ← hname,
      pieces_append_of_right (hdivider after hafter), pieces_append_of_left (hdivider before hbefore)]
  rw [hparts, nameWords, words, wordsAfter_map_separator, ← List.splitOnP_eq_splitOnPPrepend, pieces]

example : nameParts " quick__FLIP\t" = nameParts "Quick-Flip" := by rfl

/-- The normal form of a name. -/
def normalized (name : String) : String := " ".intercalate ((nameWords name).map String.ofList)

lemma pieces_intercalate {words : List (List Char)} (hblank : ∀ word ∈ words, ' ' ∉ word)
    (hempty : ∀ word ∈ words, word ≠ []) : pieces (· == ' ') ([' '].intercalate words) = words := by
  by_cases hwords : words = []
  · subst hwords
    rfl
  · rw [pieces, ← List.splitOn_eq_splitOnP, List.splitOn_intercalate ' ' hblank hwords, List.filter_eq_self]
    intro word hword
    simpa using hempty word hword

lemma pieces_normalized (name : String) : pieces (· == ' ') (normalized name).toList = nameWords name := by
  have htext : (normalized name).toList = [' '].intercalate (nameWords name) := by
    simp [normalized, String.toList_intercalate, List.map_map, Function.comp_def]
  rw [htext, nameWords_eq_nameParts]
  apply pieces_intercalate
  · intro word hword hmem
    cases not_divides_of_mem_pieces word hword ' ' hmem
  · exact ne_nil_of_mem_pieces

theorem normalized_inj {a b : String} : normalized a = normalized b ↔ nameWords a = nameWords b := by
  constructor
  · intro h
    rw [← pieces_normalized a, ← pieces_normalized b, h]
  · intro h
    rw [normalized, normalized, h]

lemma sameName_eq_decide (a b : String) : sameName a b = decide (normalized a = normalized b) := by
  rw [Bool.eq_iff_iff, sameName, beq_iff_eq, decide_eq_true_iff, normalized_inj]

end Registry
end Appraisal
