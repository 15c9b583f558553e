import Mathlib.Data.Bool.AllAny
import Mathlib.Data.List.Basic
import Mathlib.Data.List.TakeWhile
import TestScaffold.Source.Bindings

/-!
Texts with white space around and between their words. White space and the characters of
identifiers have nothing in common, so trimming and cutting into words give back the words that
a text was put together from.
-/

namespace TestScaffold

theorem CodeSet.has_cons (first : Nat) (rest : CodeSet) (code : Nat) :
    CodeSet.has (first :: rest) code = (decide (first ≤ code) && !CodeSet.has rest code) := by
  unfold CodeSet.has
  by_cases h : first ≤ code
  · simp only [List.takeWhile_cons, h, decide_true, if_true, List.length_cons, Bool.true_and]
    rw [Bool.eq_iff_iff]
    simp only [beq_iff_eq, Bool.not_eq_true', beq_eq_false_iff_ne]
    omega
  · simp [h]

/-- The code points of the characters of white space. -/
def blankPoints : List Nat :=
  [9, 10, 11, 12, 13, 32, 133, 160, 5760, 8192, 8193, 8194, 8195, 8196, 8197, 8198, 8199, 8200,
    8201, 8202, 8232, 8233, 8239, 8287, 12288]

theorem mem_blankPoints {code : Nat} (h : blankCodes.has code = true) : code ∈ blankPoints := by
  simp only [blankCodes, CodeSet.has_cons, CodeSet.has_nil, Bool.and_eq_true, Bool.not_eq_true',
    Bool.and_eq_false_iff, decide_eq_true_eq, decide_eq_false_iff_not, Bool.not_eq_false',
    Bool.false_eq_true, or_false] at h
  simp only [blankPoints, List.mem_cons, List.not_mem_nil, or_false]
  omega

theorem not_isBlank_of_isIdentifierChar {c : Char} (h : isIdentifierChar c = true) :
    isBlank c = false := by
  have hletters : ∀ code ∈ blankPoints, alphabeticCodes.has code = false ∧
      numberCodes.has code = false ∧ code ≠ '_'.toNat ∧ code ≠ '$'.toNat := by
    decide +kernel
  rw [← Bool.not_eq_true]
  intro hblank
  obtain ⟨hletter, hnumber, hline, hdollar⟩ := hletters _ (mem_blankPoints hblank)
  have hline' : c ≠ '_' := by
    rintro rfl
    exact hline rfl
  have hdollar' : c ≠ '$' := by
    rintro rfl
    exact hdollar rfl
  simp [isIdentifierChar, isLetterOrNumber, isLetter, isNumber, hletter, hnumber, hline',
    hdollar'] at h

theorem isIdentifierChar_of_isIdentifier {t : Text} (h : isIdentifier t = true) :
    ∀ c ∈ t, isIdentifierChar c = true := by
  cases t with
  | nil =>
    intro c hc
    cases hc
  | cons first rest =>
    simp only [isIdentifier, Bool.and_eq_true, List.all_eq_true] at h
    obtain ⟨hfirst, hrest⟩ := h
    intro c hc
    rcases List.mem_cons.mp hc with rfl | hc
    · simp only [isIdentifierStart, Bool.or_eq_true] at hfirst
      simp only [isIdentifierChar, isLetterOrNumber, Bool.or_eq_true]
      rcases hfirst with (hletter | hline) | hdollar
      · exact Or.inl (Or.inl (Or.inl hletter))
      · exact Or.inl (Or.inr hline)
      · exact Or.inr hdollar
    · exact hrest c hc

theorem not_mem_of_isIdentifier {t : Text} (h : isIdentifier t = true) : '\n' ∉ t := by
  intro hmem
  have hblank := not_isBlank_of_isIdentifierChar (isIdentifierChar_of_isIdentifier h _ hmem)
  exact absurd hblank (by decide)

namespace Text

theorem takeWhile_append_cons {P : Char → Bool} {t : Text} {c : Char} (ht : ∀ d ∈ t, P d = true)
    (hc : P c = false) (rest : Text) : (t ++ c :: rest).takeWhile P = t := by
  rw [List.takeWhile_append_of_pos ht, List.takeWhile_cons_of_neg (by simp [hc]), List.append_nil]

theorem dropWhile_append_cons {P : Char → Bool} {t : Text} {c : Char} (ht : ∀ d ∈ t, P d = true)
    (hc : P c = false) (rest : Text) : (t ++ c :: rest).dropWhile P = c :: rest := by
  rw [List.dropWhile_append_of_pos ht, List.dropWhile_cons_of_neg (by simp [hc])]

/-- A text that begins and ends in something other than white space. -/
structure Solid (t : Text) : Prop where
  ne_nil : t ≠ []
  first : ∀ c, t.head? = some c → isBlank c = false
  last : ∀ c, t.getLast? = some c → isBlank c = false

theorem Solid.append {a b : Text} (ha : a.Solid) (hb : b.Solid) (t : Text) :
    (a ++ t ++ b).Solid := by
  refine ⟨?_, ?_, ?_⟩
  · simp [ha.ne_nil]
  · intro c hc
    apply ha.first
    rwa [List.append_assoc, List.head?_append_of_ne_nil a ha.ne_nil] at hc
  · intro c hc
    apply hb.last
    rwa [List.getLast?_append_of_ne_nil (a ++ t) hb.ne_nil] at hc

theorem solid_of_forall {t : Text} (hne : t ≠ []) (h : ∀ c ∈ t, isBlank c = false) : t.Solid :=
  ⟨hne, fun c hc => h c (List.mem_of_mem_head? hc), fun c hc => h c (List.mem_of_getLast? hc)⟩

theorem trimStart_append {g t : Text} (hg : ∀ c ∈ g, isBlank c = true)
    (ht : ∀ c, t.head? = some c → isBlank c = false) : (g ++ t).trimStart = t := by
  unfold trimStart
  rw [List.dropWhile_append_of_pos hg]
  cases t with
  | nil => rfl
  | cons c t => rw [List.dropWhile_cons, if_neg (by simp [ht c rfl])]

theorem trimEnd_append {g t : Text} (hg : ∀ c ∈ g, isBlank c = true)
    (ht : ∀ c, t.getLast? = some c → isBlank c = false) : (t ++ g).trimEnd = t := by
  have hreverse : trimStart (g.reverse ++ t.reverse) = t.reverse := by
    apply trimStart_append
    · intro c hc
      exact hg c (List.mem_reverse.mp hc)
    · intro c hc
      rw [List.head?_reverse] at hc
      exact ht c hc
  unfold trimStart at hreverse
  unfold trimEnd
  rw [List.reverse_append, hreverse, List.reverse_reverse]

theorem Solid.trim_append {a t b : Text} (ht : t.Solid) (ha : ∀ c ∈ a, isBlank c = true)
    (hb : ∀ c ∈ b, isBlank c = true) : (a ++ t ++ b).trim = t := by
  unfold trim
  rw [List.append_assoc, trimStart_append ha, trimEnd_append hb ht.last]
  intro c hc
  rw [List.head?_append_of_ne_nil t ht.ne_nil] at hc
  exact ht.first c hc

theorem Solid.trim_append_left {a t : Text} (ht : t.Solid) (ha : ∀ c ∈ a, isBlank c = true) :
    (a ++ t).trim = t := by
  have htrim := ht.trim_append ha (b := []) (fun c hc => by cases hc)
  rwa [List.append_nil] at htrim

theorem Solid.trim_eq {t : Text} (ht : t.Solid) : t.trim = t :=
  ht.trim_append_left (a := []) fun c hc => by cases hc

theorem trim_of_forall {t : Text} (h : ∀ c ∈ t, isBlank c = true) : t.trim = [] := by
  have hstart : t.trimStart = [] := List.dropWhile_eq_nil_iff.mpr h
  unfold trim
  rw [hstart]
  rfl

/-- White space at the end is trimmed off, whatever stands before it. -/
theorem trimEnd_append_of_forall {g : Text} (hg : ∀ c ∈ g, isBlank c = true) (t : Text) :
    (t ++ g).trimEnd = t.trimEnd := by
  have hreverse : ∀ c ∈ g.reverse, isBlank c = true := fun c hc => hg c (List.mem_reverse.mp hc)
  unfold trimEnd
  rw [List.reverse_append, List.dropWhile_append_of_pos hreverse]

/-- Trimming forgets the white space around a text. -/
theorem trim_append_append {a b : Text} (ha : ∀ c ∈ a, isBlank c = true)
    (hb : ∀ c ∈ b, isBlank c = true) (t : Text) : (a ++ t ++ b).trim = t.trim := by
  by_cases ht : ∀ c ∈ t, isBlank c = true
  · rw [trim_of_forall ht]
    apply trim_of_forall
    simp only [List.forall_mem_append]
    exact ⟨⟨ha, ht⟩, hb⟩
  · have hsolid : t.dropWhile isBlank ≠ [] := fun h => ht (List.dropWhile_eq_nil_iff.mp h)
    have hstart : (a ++ t ++ b).trimStart = t.trimStart ++ b := by
      unfold trimStart
      rw [List.append_assoc, List.dropWhile_append_of_pos ha, List.dropWhile_append,
        if_neg (by simpa using hsolid)]
    unfold trim
    rw [hstart, trimEnd_append_of_forall hb]

/-- What is trimmed off a text is white space. -/
theorem exists_trim_eq (t : Text) : ∃ a b, t = a ++ t.trim ++ b ∧
    (∀ c ∈ a, isBlank c = true) ∧ ∀ c ∈ b, isBlank c = true := by
  have hstart : t = t.takeWhile isBlank ++ t.trimStart := List.takeWhile_append_dropWhile.symm
  have hend : t.trimStart = t.trim ++ (t.trimStart.reverse.takeWhile isBlank).reverse := by
    unfold trim trimEnd
    rw [← List.reverse_append, List.takeWhile_append_dropWhile, List.reverse_reverse]
  refine ⟨t.takeWhile isBlank, (t.trimStart.reverse.takeWhile isBlank).reverse, ?_, ?_, ?_⟩
  · rw [List.append_assoc, ← hend, ← hstart]
  · exact fun c hc => List.mem_takeWhile_imp hc
  · exact fun c hc => List.mem_takeWhile_imp (List.mem_reverse.mp hc)

/-- Nothing is left when a text of white space is trimmed, and of no other text. -/
theorem trim_eq_nil_iff {t : Text} : t.trim = [] ↔ ∀ c ∈ t, isBlank c = true := by
  refine ⟨fun h => ?_, trim_of_forall⟩
  obtain ⟨a, b, ht, ha, hb⟩ := exists_trim_eq t
  intro c hc
  rw [ht, h, List.append_nil] at hc
  exact (List.mem_append.mp hc).elim (ha c) (hb c)

/-- What is left of a text begins and ends in something other than white space. -/
theorem solid_trim {t : Text} (hne : t.trim ≠ []) : t.trim.Solid := by
  refine ⟨hne, ?_, ?_⟩
  · intro c hc
    -- It begins where the white space at the start ends.
    have hprefix : t.trim <+: t.trimStart := by
      have hsuffix := List.reverse_prefix.mpr (List.dropWhile_suffix isBlank (l := t.trimStart.reverse))
      rwa [List.reverse_reverse] at hsuffix
    obtain ⟨rest, hrest⟩ := hprefix
    have hnot := List.head?_dropWhile_not isBlank t
    have hhead : (t.dropWhile isBlank).head? = some c := by
      change t.trimStart.head? = some c
      rw [← hrest, List.head?_append_of_ne_nil _ hne]
      exact hc
    rw [hhead] at hnot
    simpa using hnot
  · intro c hc
    have hnot := List.head?_dropWhile_not isBlank t.trimStart.reverse
    unfold trim trimEnd at hc
    rw [List.getLast?_reverse] at hc
    rw [hc] at hnot
    simpa using hnot

theorem trim_trim (t : Text) : t.trim.trim = t.trim := by
  obtain ⟨a, b, ht, ha, hb⟩ := exists_trim_eq t
  rw [← trim_append_append ha hb t.trim, ← ht]

theorem mem_join {c : Char} {sep : Text} {parts : List Text} (h : c ∈ join sep parts) :
    c ∈ sep ∨ ∃ part ∈ parts, c ∈ part := by
  unfold join at h
  induction parts with
  | nil => cases h
  | cons part parts ih =>
    by_cases hnil : parts = []
    · rw [hnil, List.intercalate_singleton] at h
      exact Or.inr ⟨part, List.mem_cons_self, h⟩
    · rw [List.intercalate_cons_of_ne_nil hnil, List.mem_append, List.mem_append] at h
      rcases h with (hpart | hsep) | hrest
      · exact Or.inr ⟨part, List.mem_cons_self, hpart⟩
      · exact Or.inl hsep
      · rcases ih hrest with hsep | ⟨other, hother, hc⟩
        · exact Or.inl hsep
        · exact Or.inr ⟨other, List.mem_cons_of_mem part hother, hc⟩

theorem words_append_cons {c : Char} (hc : isBlank c = true) (a b : Text) :
    (a ++ c :: b).words = a.words ++ b.words := by
  unfold words
  rw [List.splitOnP_append_cons a b hc, List.filter_append]

/-- White space belongs to no word. -/
theorem words_append_of_forall {g : Text} (hg : ∀ c ∈ g, isBlank c = true) (t : Text) :
    (g ++ t).words = t.words := by
  induction g with
  | nil => rfl
  | cons c g ih =>
    obtain ⟨hc, hg⟩ := List.forall_mem_cons.mp hg
    exact (words_append_cons hc [] (g ++ t)).trans (ih hg)

theorem words_of_forall {g : Text} (hg : ∀ c ∈ g, isBlank c = true) : g.words = [] := by
  have happend := words_append_of_forall hg []
  rwa [List.append_nil] at happend

theorem words_of_word {w : Text} (hne : w ≠ []) (hw : ∀ c ∈ w, isBlank c = false) :
    w.words = [w] := by
  unfold words
  rw [List.splitOnP_eq_singleton hw]
  simp [hne]

/-- A word is cut off by the white space after it. -/
theorem words_append_append {w g : Text} (hne : w ≠ []) (hw : ∀ c ∈ w, isBlank c = false)
    (hg : ∀ c ∈ g, isBlank c = true) (hgap : g ≠ []) (t : Text) :
    (w ++ (g ++ t)).words = w :: t.words := by
  obtain ⟨c, g, rfl⟩ := List.exists_cons_of_ne_nil hgap
  obtain ⟨hc, hg⟩ := List.forall_mem_cons.mp hg
  rw [List.cons_append, words_append_cons hc, words_append_of_forall hg, words_of_word hne hw]
  rfl

theorem not_isBlank_of_mem_splitOnP (t : Text) :
    ∀ part ∈ List.splitOnP isBlank t, ∀ c ∈ part, isBlank c = false := by
  induction t with
  | nil => simp
  | cons c t ih =>
    rw [List.splitOnP_cons_eq_if_modifyHead]
    split
    · exact List.forall_mem_cons.mpr ⟨List.forall_mem_nil _, ih⟩
    · rename_i hc
      -- The character goes to the first part of the rest.
      cases hsplit : List.splitOnP isBlank t with
      | nil => exact absurd hsplit (List.splitOnP_ne_nil isBlank t)
      | cons part parts =>
        rw [hsplit, List.forall_mem_cons] at ih
        obtain ⟨hpart, hparts⟩ := ih
        rw [List.modifyHead_cons, List.forall_mem_cons, List.forall_mem_cons]
        exact ⟨⟨eq_false_of_ne_true hc, hpart⟩, hparts⟩

theorem not_isBlank_of_mem_words {t w : Text} (h : w ∈ t.words) : ∀ c ∈ w, isBlank c = false :=
  not_isBlank_of_mem_splitOnP t w (List.mem_of_mem_filter h)

/-- Words with single spaces between them are cut into the same words again. -/
theorem words_join {ws : List Text} (h : ∀ w ∈ ws, w ≠ [] ∧ ∀ c ∈ w, isBlank c = false) :
    (join [' '] ws).words = ws := by
  have hspace : ∀ c ∈ [' '], isBlank c = true := List.forall_mem_singleton.mpr (by decide)
  unfold join
  induction ws with
  | nil => rfl
  | cons w ws ih =>
    obtain ⟨⟨hne, hw⟩, hws⟩ := List.forall_mem_cons.mp h
    by_cases hnil : ws = []
    · rw [hnil, List.intercalate_singleton]
      exact words_of_word hne hw
    · rw [List.intercalate_cons_of_ne_nil hnil, List.append_assoc,
        words_append_append hne hw hspace (List.cons_ne_nil _ _), ih hws]

end Text

end TestScaffold
