import TestScaffold.Proofs.Text.Blanks
import TestScaffold.Proofs.Text.Lines

/-!
Texts made of whole lines, none of which begins with a given character. A recogniser that needs
this character at the start of a line finds nothing in such a text, so the parts of a generated
file can be looked at one by one.
-/

namespace TestScaffold

namespace Text

/-- Whole lines none of which begins with `c`. -/
def LinesAvoid (c : Char) (t : Text) : Prop :=
  ∃ lines, t = ofLines lines ∧ ∀ line ∈ lines, '\n' ∉ line ∧ line.head? ≠ some c

variable {c : Char}

theorem linesAvoid_line {line : Text} (hline : '\n' ∉ line) (hfirst : line.head? ≠ some c) :
    LinesAvoid c (line ++ ['\n']) := by
  refine ⟨[line], by simp, ?_⟩
  intro l hl
  rw [List.mem_singleton.mp hl]
  exact ⟨hline, hfirst⟩

/-- A line that begins with a fixed text begins with its first character. -/
theorem linesAvoid_of_start {start rest : Text} (hstart : start.head?.any (· ≠ c) = true)
    (hline : '\n' ∉ start ++ rest) : LinesAvoid c (start ++ rest ++ ['\n']) := by
  apply linesAvoid_line hline
  obtain ⟨d, hd, hne⟩ := (Option.any_eq_true _ _).mp hstart
  rw [List.head?_append, hd, Option.some_or]
  intro heq
  exact of_decide_eq_true hne (Option.some.inj heq)

/-- A name between two fixed texts. -/
theorem linesAvoid_around {start name finish : Text} (hstart : start.head?.any (· ≠ c) = true)
    (hfirst : '\n' ∉ start) (hname : '\n' ∉ name) (hfinish : '\n' ∉ finish) :
    LinesAvoid c (start ++ (name ++ finish) ++ ['\n']) := by
  apply linesAvoid_of_start hstart
  rw [List.mem_append, List.mem_append, not_or, not_or]
  exact ⟨hfirst, hname, hfinish⟩

theorem LinesAvoid.append {a b : Text} (ha : LinesAvoid c a) (hb : LinesAvoid c b) :
    LinesAvoid c (a ++ b) := by
  obtain ⟨first, rfl, hfirst⟩ := ha
  obtain ⟨second, rfl, hsecond⟩ := hb
  refine ⟨first ++ second, by simp, ?_⟩
  intro line hline
  rcases List.mem_append.mp hline with hmem | hmem
  · exact hfirst line hmem
  · exact hsecond line hmem

theorem linesAvoid_nil : LinesAvoid c [] :=
  ⟨[], rfl, fun _ h => by cases h⟩

/-- An empty line begins with no character. -/
theorem linesAvoid_lineFeed : LinesAvoid c ['\n'] := by
  have hempty : LinesAvoid c ([] ++ ['\n']) := linesAvoid_line List.not_mem_nil (by simp)
  exact hempty

theorem linesAvoid_flatMap {α : Type} {f : α → Text} {xs : List α}
    (h : ∀ x ∈ xs, LinesAvoid c (f x)) : LinesAvoid c (xs.flatMap f) := by
  induction xs with
  | nil => exact linesAvoid_nil
  | cons x xs ih =>
    obtain ⟨hx, hxs⟩ := List.forall_mem_cons.mp h
    exact hx.append (ih hxs)

theorem linesAvoid_join {parts : List Text} (h : ∀ part ∈ parts, LinesAvoid c part) :
    LinesAvoid c (join ['\n'] parts) := by
  unfold join
  induction parts with
  | nil => exact linesAvoid_nil
  | cons part parts ih =>
    obtain ⟨hpart, hparts⟩ := List.forall_mem_cons.mp h
    by_cases hnil : parts = []
    · rw [hnil, List.intercalate_singleton]
      exact hpart
    · rw [List.intercalate_cons_of_ne_nil hnil]
      exact (hpart.append linesAvoid_lineFeed).append (ih hparts)

/-- A recogniser of something that begins with `c` passes over such lines. -/
theorem LinesAvoid.finds_append {α : Type} {find : Position → Option (α × Nat)} {t : Text}
    (h : LinesAvoid c t) (hfind : LooksAtLines find)
    (hnone : ∀ {d : Char}, d ≠ c → ∀ b u, find ⟨b, d :: u⟩ = none) (hc : c ≠ '\n') (rest : Text) :
    (t ++ rest).finds find = rest.finds find := by
  obtain ⟨lines, rfl, hlines⟩ := h
  have hfeed : ∀ b u, find ⟨b, '\n' :: u⟩ = none := hnone (Ne.symm hc)
  apply hfind.finds_ofLines hfeed
  · exact fun line hline => (hlines line hline).1
  · intro line hline u
    cases line with
    -- Of an empty line only its line feed is seen.
    | nil => exact hfeed none u
    | cons d line =>
      apply hnone
      rintro rfl
      exact (hlines _ hline).2 rfl

/-- The lines of such a text begin with other characters. -/
theorem LinesAvoid.head?_ne {t line : Text} (h : LinesAvoid c t) (hline : line ∈ fields t '\n') :
    line.head? ≠ some c := by
  obtain ⟨lines, rfl, hlines⟩ := h
  have hfields := fields_ofLines (fun line hline => (hlines line hline).1) []
  rw [List.append_nil] at hfields
  rw [hfields] at hline
  rcases List.mem_append.mp hline with hmem | hlast
  · exact (hlines line hmem).2
  · -- What follows the last line feed is empty.
    obtain rfl : line = [] := List.mem_singleton.mp hlast
    simp

end Text

end TestScaffold
