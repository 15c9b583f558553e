import Mathlib.Data.List.Basic
import TestScaffold.Text.Pattern

/-!
Finds of recognisers that look at the starts of lines only. Such a recogniser may be followed
line by line: what it finds in a line, or that it finds nothing, does not depend on the lines
before, and inside a line there is nothing to be found.
-/

namespace TestScaffold

namespace Text

/-- A recogniser that finds at the start of a line only, by what follows there. -/
structure LooksAtLines {α : Type} (find : Position → Option (α × Nat)) : Prop where
  inside : ∀ p, p.isLineStart = false → find p = none
  start : ∀ p, p.isLineStart = true → find p = find ⟨none, p.rest⟩

section

variable {α : Type} {find : Position → Option (α × Nat)}

theorem mem_findsFrom {skip : Nat} {before : Option Char} {t : Text} {a : α}
    (h : a ∈ findsFrom find skip before t) : ∃ p n, find p = some (a, n) := by
  induction t generalizing skip before with
  | nil => cases skip <;> cases h
  | cons c t ih =>
    cases skip with
    | succ skip => exact ih h
    | zero =>
      simp only [findsFrom] at h
      split at h
      · rename_i b taken hfind
        rcases List.mem_cons.mp h with rfl | htail
        · exact ⟨_, taken, hfind⟩
        · exact ih htail
      · exact ih h

theorem mem_finds {t : Text} {a : α} (h : a ∈ t.finds find) : ∃ p n, find p = some (a, n) :=
  mem_findsFrom h

theorem getLast?_cons_or (c : Char) (t : Text) (before : Option Char) :
    (c :: t).getLast?.or before = t.getLast?.or (some c) := by
  rw [List.getLast?_cons]
  cases t.getLast? <;> rfl

/-- What is found has been passed over afterwards. -/
theorem findsFrom_length (t rest : Text) (before : Option Char) :
    findsFrom find t.length before (t ++ rest) =
      findsFrom find 0 (t.getLast?.or before) rest := by
  induction t generalizing before with
  | nil => rfl
  | cons c t ih =>
    rw [getLast?_cons_or]
    exact ih (some c)

theorem findsFrom_of_some {t rest : Text} {before : Option Char} {a : α} (ht : t ≠ [])
    (h : find ⟨before, t ++ rest⟩ = some (a, t.length)) :
    findsFrom find 0 before (t ++ rest) = a :: findsFrom find 0 t.getLast? rest := by
  obtain ⟨c, t, rfl⟩ := List.exists_cons_of_ne_nil ht
  simp only [List.cons_append] at h ⊢
  simp only [findsFrom, h, List.length_cons, Nat.add_sub_cancel]
  rw [findsFrom_length, ← getLast?_cons_or c t none, Option.or_none]

/-- A text is passed over when nothing is found at any place in it. -/
theorem findsFrom_append {t : Text} (rest : Text) (before : Option Char)
    (h : ∀ front c back, t = front ++ c :: back →
      find ⟨front.getLast?.or before, c :: (back ++ rest)⟩ = none) :
    findsFrom find 0 before (t ++ rest) = findsFrom find 0 (t.getLast?.or before) rest := by
  induction t generalizing before with
  | nil => rfl
  | cons c t ih =>
    have hhere : find ⟨before, c :: (t ++ rest)⟩ = none := h [] c t rfl
    simp only [List.cons_append, findsFrom, hhere]
    rw [getLast?_cons_or]
    apply ih
    intro front d back ht
    rw [← getLast?_cons_or c front before]
    exact h (c :: front) d back (congrArg (c :: ·) ht)

/-- Characters at which nothing begins are passed over. -/
theorem findsFrom_append_of_chars {t : Text} (rest : Text) (before : Option Char)
    (h : ∀ c ∈ t, ∀ b u, find ⟨b, c :: u⟩ = none) :
    findsFrom find 0 before (t ++ rest) = findsFrom find 0 (t.getLast?.or before) rest := by
  apply findsFrom_append
  intro front c back ht
  apply h
  rw [ht]
  exact List.mem_append_right front List.mem_cons_self

namespace LooksAtLines

variable (hfind : LooksAtLines find)
include hfind

theorem findsFrom_start {before : Option Char} (hbefore : before = none ∨ before = some '\n')
    (t : Text) : findsFrom find 0 before t = t.finds find := by
  have hstart : Position.isLineStart ⟨before, t⟩ = true := by
    rcases hbefore with rfl | rfl <;> rfl
  cases t with
  | nil => rfl
  | cons c t =>
    unfold finds
    simp only [findsFrom]
    rw [hfind.start ⟨before, c :: t⟩ hstart]

/-- After its first character a line is passed over. -/
theorem findsFrom_inside {c : Char} (hc : c ≠ '\n') {line : Text} (hline : '\n' ∉ line)
    (rest : Text) :
    findsFrom find 0 (some c) (line ++ rest) =
      findsFrom find 0 (line.getLast?.or (some c)) rest := by
  apply findsFrom_append
  intro front d back ht
  apply hfind.inside
  have hlast : front.getLast?.or (some c) ≠ some '\n' := by
    cases hfront : front.getLast? with
    | none => simpa using hc
    | some last =>
      have hmem : last ∈ line := by
        rw [ht]
        exact List.mem_append_left _ (List.mem_of_getLast? hfront)
      simp only [Option.some_or, ne_eq, Option.some.injEq]
      rintro rfl
      exact hline hmem
  have hnone : front.getLast?.or (some c) ≠ none := by cases front.getLast? <;> simp
  unfold Position.isLineStart
  rw [Bool.or_eq_false_iff, beq_eq_false_iff_ne, beq_eq_false_iff_ne]
  exact ⟨hnone, hlast⟩

theorem findsFrom_lineFeed {before : Option Char} (rest : Text)
    (hnone : ∀ b u, find ⟨b, '\n' :: u⟩ = none) :
    findsFrom find 0 before ('\n' :: rest) = rest.finds find := by
  simp only [findsFrom, hnone]
  exact hfind.findsFrom_start (Or.inr rfl) rest

/-- A line at whose start nothing is found is passed over. -/
theorem finds_line {line : Text} (rest : Text) (hline : '\n' ∉ line)
    (hlf : ∀ b u, find ⟨b, '\n' :: u⟩ = none)
    (hnone : find ⟨none, line ++ '\n' :: rest⟩ = none) :
    (line ++ '\n' :: rest).finds find = rest.finds find := by
  cases line with
  | nil => exact hfind.findsFrom_lineFeed rest hlf
  | cons c line =>
    rw [List.mem_cons, not_or] at hline
    unfold finds
    simp only [List.cons_append] at hnone ⊢
    simp only [findsFrom, hnone]
    rw [hfind.findsFrom_inside (Ne.symm hline.1) hline.2, hfind.findsFrom_lineFeed rest hlf]
    rfl

end LooksAtLines

end

/-- Lines one after the other, each with its line feed. -/
def ofLines (lines : List Text) : Text :=
  lines.flatMap (· ++ ['\n'])

@[simp] theorem ofLines_nil : ofLines [] = [] :=
  rfl

@[simp] theorem ofLines_cons (line : Text) (lines : List Text) :
    ofLines (line :: lines) = line ++ '\n' :: ofLines lines := by
  simp [ofLines]

@[simp] theorem ofLines_append (a b : List Text) : ofLines (a ++ b) = ofLines a ++ ofLines b :=
  List.flatMap_append

theorem LooksAtLines.finds_ofLines {α : Type} {find : Position → Option (α × Nat)}
    (hfind : LooksAtLines find) (hlf : ∀ b u, find ⟨b, '\n' :: u⟩ = none) {lines : List Text}
    (hlines : ∀ line ∈ lines, '\n' ∉ line)
    (hnone : ∀ line ∈ lines, ∀ u, find ⟨none, line ++ '\n' :: u⟩ = none) (rest : Text) :
    (ofLines lines ++ rest).finds find = rest.finds find := by
  induction lines with
  | nil => rfl
  | cons line lines ih =>
    obtain ⟨hline, hothers⟩ := List.forall_mem_cons.mp hlines
    obtain ⟨hhere, hthere⟩ := List.forall_mem_cons.mp hnone
    rw [ofLines_cons, List.append_assoc, List.cons_append,
      hfind.finds_line _ hline hlf (hhere _), ih hothers hthere]

/-- The parts between the line feeds are the lines, and what follows the last of them. -/
theorem fields_ofLines {lines : List Text} (h : ∀ line ∈ lines, '\n' ∉ line) (t : Text) :
    fields (ofLines lines ++ t) '\n' = lines ++ fields t '\n' := by
  induction lines with
  | nil => rfl
  | cons line lines ih =>
    obtain ⟨hline, hothers⟩ := List.forall_mem_cons.mp h
    have hfirst : fields line '\n' = [line] := List.splitOn_eq_singleton hline
    rw [ofLines_cons, List.append_assoc, List.cons_append]
    unfold fields at hfirst ⊢
    rw [List.splitOn_append_cons_self, hfirst]
    exact congrArg (line :: ·) (ih hothers)

end Text

end TestScaffold
