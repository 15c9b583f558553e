import Mathlib.Algebra.Group.Nat.Defs
import TestScaffold.Proofs.Text.Blanks
import TestScaffold.Proofs.Text.LetterCase

/-!
Capital letters in identifiers. The character that stands first in the capital form of a letter is a
letter again, so a name has an identifier as its capitalized form only if it is one itself. The
converse fails for the few letters whose capital form has more than one character, when one of these
is a combining mark: `ǰ` becomes `J` and a caron.
-/

namespace TestScaffold

/-- The members of a set below `size` as the bits of one number, in which they are found at once. -/
def CodeSet.bits (size : Nat) : CodeSet → Nat
  | [] => 0
  | point :: rest => ((2 ^ size - 1) ^^^ bits size rest) >>> point <<< point

theorem CodeSet.testBit_bits {size code : Nat} (set : CodeSet) (h : code < size) :
    (set.bits size).testBit code = set.has code := by
  induction set with
  | nil => rw [bits, has_nil, Nat.zero_testBit]
  | cons point rest ih =>
    rw [bits, has_cons, Nat.testBit_shiftLeft, Nat.testBit_shiftRight]
    by_cases hpoint : point ≤ code
    · rw [Nat.add_sub_cancel' hpoint, Nat.testBit_xor, Nat.testBit_two_pow_sub_one, ih]
      simp [hpoint, h]
    · simp [hpoint]

/-- Whether a code point is that of a letter; none of those above `2 ^ 17` is known. -/
def isLetterCode (code : Nat) : Bool :=
  code < 2 ^ 17 && (alphabeticCodes.bits (2 ^ 17)).testBit code

theorem isLetter_of_isLetterCode {c : Char} (h : isLetterCode c.toNat = true) :
    isLetter c = true := by
  obtain ⟨hsize, hbit⟩ := Bool.and_eq_true_iff.mp h
  rwa [CodeSet.testBit_bits alphabeticCodes (of_decide_eq_true hsize)] at hbit

/-- All that the runs of the upper-case mapping move are letters, and they are moved to letters. -/
theorem isLetterCode_of_upperRuns : ∀ run ∈ upperRuns, ∀ k ≤ (run.last - run.first) / run.step,
    isLetterCode (run.first + k * run.step) = true ∧
      isLetterCode (Char.ofNat ((run.first + k * run.step : Nat) + run.shift).toNat).toNat =
        true := by
  decide +kernel

/-- Where the capital form has several characters, it is that of a letter and begins with one. -/
theorem isLetterCode_of_upperExpansions : ∀ e ∈ upperExpansions, isLetterCode e.1 = true ∧
    ∃ code ∈ e.2.head?, isLetterCode (Char.ofNat code).toNat = true := by
  decide +kernel

theorem CaseRun.isLetterCode_of_map? {run : CaseRun} {code image : Nat} (hrun : run ∈ upperRuns)
    (h : run.map? code = some image) :
    isLetterCode code = true ∧ isLetterCode (Char.ofNat image).toNat = true := by
  unfold map? at h
  split at h
  · rename_i hinside
    obtain ⟨hfirst, hlast, hstep⟩ := hinside
    obtain rfl := Option.some.inj h
    -- The code point stands a whole number of steps after the first one.
    have hcode : run.first + (code - run.first) / run.step * run.step = code := by
      rw [Nat.div_mul_cancel (Nat.dvd_of_mod_eq_zero hstep), Nat.add_sub_cancel' hfirst]
    have hsteps : (code - run.first) / run.step ≤ (run.last - run.first) / run.step :=
      Nat.div_le_div_right (Nat.sub_le_sub_right hlast _)
    have hletters := isLetterCode_of_upperRuns run hrun _ hsteps
    rwa [hcode] at hletters
  · cases h

/-- A character is its own capital form, or it is a letter and its capital form begins with one. -/
theorem upperForm_cases (c : Char) :
    upperForm c = [c] ∨
      isLetter c = true ∧ ∃ d rest, upperForm c = d :: rest ∧ isLetter d = true := by
  unfold upperForm caseForm
  split
  · rename_i codes hcodes
    obtain ⟨hletter, code, hhead, hcapital⟩ :=
      isLetterCode_of_upperExpansions _ (mem_of_lookup hcodes)
    obtain ⟨more, rfl⟩ := List.head?_eq_some_iff.mp hhead
    exact Or.inr ⟨isLetter_of_isLetterCode hletter, Char.ofNat code, more.map Char.ofNat, rfl,
      isLetter_of_isLetterCode hcapital⟩
  · split
    · rename_i image himage
      obtain ⟨run, hrun, hmap⟩ := List.exists_of_findSome?_eq_some himage
      obtain ⟨hletter, hcapital⟩ := run.isLetterCode_of_map? hrun hmap
      exact Or.inr ⟨isLetter_of_isLetterCode hletter, Char.ofNat image, [], rfl,
        isLetter_of_isLetterCode hcapital⟩
    · exact Or.inl rfl

theorem isIdentifierStart_of_isLetter {c : Char} (h : isLetter c = true) :
    isIdentifierStart c = true := by
  simp [isIdentifierStart, h]

theorem isIdentifier_cons_iff {c : Char} {t : Text} :
    isIdentifier (c :: t) = true ↔
      isIdentifierStart c = true ∧ ∀ d ∈ t, isIdentifierChar d = true := by
  rw [isIdentifier, Bool.and_eq_true, List.all_eq_true]

namespace Text

/-- A text that begins with a capitalized name is an identifier when the name is one, and nothing
but characters of identifiers stands in its capital form and in what follows. -/
theorem isIdentifier_capitalize_append_iff {name : Text} (hne : name ≠ []) (rest : Text) :
    isIdentifier (name.capitalize ++ rest) = true ↔
      isIdentifier name = true ∧ ∀ d ∈ name.capitalize ++ rest, isIdentifierChar d = true := by
  obtain ⟨c, name, rfl⟩ := List.exists_cons_of_ne_nil hne
  constructor
  · intro hidentifier
    have hchars := isIdentifierChar_of_isIdentifier hidentifier
    refine ⟨isIdentifier_cons_iff.mpr ⟨?_, fun d hd => hchars d ?_⟩, hchars⟩
    · rcases upperForm_cases c with hsame | ⟨hletter, -⟩
      · rw [capitalize, hsame] at hidentifier
        exact (isIdentifier_cons_iff.mp hidentifier).1
      · exact isIdentifierStart_of_isLetter hletter
    · exact List.mem_append_left _ (List.mem_append_right _ hd)
  · rintro ⟨hname, hchars⟩
    rcases upperForm_cases c with hsame | ⟨-, d, form, hform, hletter⟩
    · rw [capitalize, hsame] at hchars ⊢
      exact isIdentifier_cons_iff.mpr
        ⟨(isIdentifier_cons_iff.mp hname).1, fun d hd => hchars d (List.mem_cons_of_mem c hd)⟩
    · rw [capitalize, hform] at hchars ⊢
      exact isIdentifier_cons_iff.mpr
        ⟨isIdentifierStart_of_isLetter hletter, fun e he => hchars e (List.mem_cons_of_mem d he)⟩

end Text

end TestScaffold
