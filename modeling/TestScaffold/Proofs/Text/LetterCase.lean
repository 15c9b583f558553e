import Mathlib.Data.List.Basic
import TestScaffold.Text.LetterCase

/-!
Letter case and single characters. No character but the line feed itself has a line feed in one
of its case forms, so a text in lower case or with a capital stays on its line. No character at
all has a small letter t in upper case, so no capitalised text begins with one.
-/

namespace TestScaffold

theorem ofNat_ne {code : Nat} {c : Char} (hnull : c ≠ '\x00') (h : code ≠ c.toNat) :
    Char.ofNat code ≠ c := by
  intro heq
  by_cases hvalid : code.isValidChar
  · have hnat : (Char.ofNat code).toNat = code := by
      unfold Char.ofNat
      rw [dif_pos hvalid]
      rfl
    rw [heq] at hnat
    exact h hnat.symm
  · -- What is no code point stands for the null character.
    unfold Char.ofNat at heq
    rw [dif_neg hvalid] at heq
    exact hnull heq.symm

/-- Whether no code point of the run is moved to `code`. -/
def CaseRun.Misses (code : Nat) (run : CaseRun) : Prop :=
  code < run.first + run.shift ∨ run.last + run.shift < code

instance (code : Nat) (run : CaseRun) : Decidable (run.Misses code) :=
  inferInstanceAs (Decidable (code < run.first + run.shift ∨ run.last + run.shift < code))

theorem CaseRun.Misses.map?_ne {run : CaseRun} {avoided code image : Nat}
    (h : run.Misses avoided) (himage : run.map? code = some image)
    (hpositive : 0 < avoided) : image ≠ avoided := by
  unfold Misses at h
  unfold map? at himage
  split at himage
  · rename_i hrun
    obtain ⟨hfirst, hlast, -⟩ := hrun
    obtain rfl := Option.some.inj himage
    omega
  · cases himage

theorem mem_of_lookup {expansions : List (Nat × List Nat)} {code : Nat} {codes : List Nat}
    (h : expansions.lookup code = some codes) : (code, codes) ∈ expansions := by
  obtain ⟨front, back, happend, -⟩ := List.lookup_eq_some_iff.mp h
  rw [happend]
  exact List.mem_append_right front List.mem_cons_self

/-- A table of case mappings in which no other character is mapped to `c`. -/
structure Spares (c : Char) (expansions : List (Nat × List Nat)) (runs : List CaseRun) : Prop where
  positive : 0 < c.toNat
  expansions : ∀ e ∈ expansions, c.toNat ∉ e.2
  runs : ∀ run ∈ runs, run.Misses c.toNat

theorem spares_lineFeed_upper : Spares '\n' upperExpansions upperRuns where
  positive := by decide
  expansions := by decide +kernel
  runs := by decide +kernel

theorem spares_lineFeed_lower : Spares '\n' lowerExpansions lowerRuns where
  positive := by decide
  expansions := by decide +kernel
  runs := by decide +kernel

theorem spares_smallT_upper : Spares 't' upperExpansions upperRuns where
  positive := by decide
  expansions := by decide +kernel
  runs := by decide +kernel

theorem Spares.not_mem_caseForm {expansions : List (Nat × List Nat)} {runs : List CaseRun}
    {c d : Char} (h : Spares c expansions runs) (hd : d ≠ c) :
    c ∉ caseForm expansions runs d := by
  have hnull : c ≠ '\x00' := by
    rintro rfl
    exact absurd h.positive (by decide)
  unfold caseForm
  split
  · rename_i codes hcodes
    intro hc
    obtain ⟨code, hcode, heq⟩ := List.mem_map.mp hc
    refine ofNat_ne hnull ?_ heq
    rintro rfl
    exact h.expansions _ (mem_of_lookup hcodes) hcode
  · split
    · rename_i code hcode
      obtain ⟨run, hrun, himage⟩ := List.exists_of_findSome?_eq_some hcode
      have hne : code ≠ c.toNat := (h.runs run hrun).map?_ne himage h.positive
      intro hc
      exact ofNat_ne hnull hne (List.mem_singleton.mp hc).symm
    · intro hc
      exact hd (List.mem_singleton.mp hc).symm

theorem not_mem_lowerAfter (before : Text) {t : Text} (h : '\n' ∉ t) :
    '\n' ∉ lowerAfter before t := by
  induction t generalizing before with
  | nil => exact h
  | cons c t ih =>
    rw [List.mem_cons, not_or] at h
    obtain ⟨hc, ht⟩ := h
    unfold lowerAfter
    rw [List.mem_append, not_or]
    constructor
    · -- Both forms of the sigma are other characters.
      split
      · split <;> decide
      · exact spares_lineFeed_lower.not_mem_caseForm (Ne.symm hc)
    · exact ih (c :: before) ht

theorem upperForm_ne_nil (c : Char) : upperForm c ≠ [] := by
  have hexpansions : ∀ e ∈ upperExpansions, e.2 ≠ [] := by decide +kernel
  unfold upperForm caseForm
  split
  · rename_i codes hcodes
    rw [ne_eq, List.map_eq_nil_iff]
    exact hexpansions _ (mem_of_lookup hcodes)
  · split <;> exact List.cons_ne_nil _ _

theorem smallT_not_mem_upperForm (c : Char) : 't' ∉ upperForm c := by
  by_cases hc : c = 't'
  · rw [hc]
    decide +kernel
  · exact spares_smallT_upper.not_mem_caseForm hc

namespace Text

theorem not_mem_toLower {t : Text} (h : '\n' ∉ t) : '\n' ∉ t.toLower :=
  not_mem_lowerAfter [] h

theorem not_mem_capitalize {t : Text} (h : '\n' ∉ t) : '\n' ∉ t.capitalize := by
  cases t with
  | nil => exact h
  | cons c t =>
    rw [List.mem_cons, not_or] at h
    obtain ⟨hc, ht⟩ := h
    unfold capitalize
    -- Only the first character changes.
    rw [List.mem_append, not_or]
    exact ⟨spares_lineFeed_upper.not_mem_caseForm (Ne.symm hc), ht⟩

theorem head?_capitalize_ne (t : Text) : t.capitalize.head? ≠ some 't' := by
  cases t with
  | nil => simp [capitalize]
  | cons c t =>
    unfold capitalize
    rw [List.head?_append_of_ne_nil _ (upperForm_ne_nil c)]
    intro hhead
    exact smallT_not_mem_upperForm c (List.mem_of_mem_head? hhead)

end Text

end TestScaffold
