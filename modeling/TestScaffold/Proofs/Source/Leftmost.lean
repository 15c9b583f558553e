import Mathlib.Data.Nat.Find
import TestScaffold.Proofs.Source.Stretch

/-!
The search for imports, said without the search. From the start of a text on, the leftmost place at
the start of a line where a stretch stands that counts as an import comes next, and the search goes
on behind this stretch. What a scan reports is what these stretches say.
-/

namespace TestScaffold

def StartsLine (t : Text) (i : Nat) : Prop :=
  i = 0 ∨ t[i - 1]? = some '\n'

/-- Whether the stretch stands at a place of a text where a line starts. -/
def ImportStretch.StandsAt (x : ImportStretch) (t : Text) (i : Nat) : Prop :=
  StartsLine t i ∧ ∃ rest, t.drop i = x.text ++ rest ∧ x.EndsBefore rest

/-- A stretch and the place where it begins. -/
structure Sighting where
  start : Nat
  stretch : ImportStretch

def Sighting.stop (f : Sighting) : Nat :=
  f.start + f.stretch.text.length

/-- The sightings that a text has from a place on, each the leftmost one behind those before it. -/
inductive Leftmost (t : Text) : Nat → List Sighting → Prop
  | nothing {start : Nat} (hnone : ∀ i, start ≤ i → ∀ x : ImportStretch, ¬ x.StandsAt t i) :
      Leftmost t start []
  | next {start : Nat} {f : Sighting} {found : List Sighting} (hfrom : start ≤ f.start)
      (hstands : f.stretch.StandsAt t f.start)
      (hfirst : ∀ i, start ≤ i → i < f.start → ∀ x : ImportStretch, ¬ x.StandsAt t i)
      (hrest : Leftmost t f.stop found) : Leftmost t start (f :: found)

/-- The statement that a stretch makes: none when its module is excluded or its clause imports types
only. -/
def ImportStretch.statement? (s : ScanSettings) (x : ImportStretch) : Option ImportStatement :=
  if s.isExcluded x.quotation.content then none
  else (Bindings.ofClause? x.clause).map fun bindings =>
    ⟨x.text.trimEnd, x.quotation.content, bindings⟩

theorem Bindings.ofClause?_trim (clause : Text) : ofClause? clause.trim = ofClause? clause := by
  unfold ofClause?
  rw [Text.trim_trim]

theorem ImportStretch.statement?_line (x : ImportStretch) (s : ScanSettings) :
    s.statement? x.line = x.statement? s := by
  unfold ScanSettings.statement? ImportStretch.statement?
  simp only [line, Bindings.ofClause?_trim]

section

variable {t : Text} {i : Nat} {x : ImportStretch}

theorem isLineStart_iff (hi : i ≤ t.length) (rest : Text) :
    Position.isLineStart ⟨(t.take i).getLast?, rest⟩ = true ↔ StartsLine t i := by
  unfold Position.isLineStart StartsLine
  rw [Bool.or_eq_true, beq_iff_eq, beq_iff_eq, List.getLast?_take]
  by_cases hzero : i = 0
  · simp [hzero]
  · have hin : i - 1 < t.length := by omega
    simp [hzero, List.getElem?_eq_getElem hin]

/-- Where a stretch stands, its import is read. -/
theorem ImportStretch.StandsAt.importAt_eq (h : x.StandsAt t i) (hi : i ≤ t.length) :
    importAt ⟨(t.take i).getLast?, t.drop i⟩ = some (x.line, x.line.raw.length) := by
  obtain ⟨hline, rest, htext, hends⟩ := h
  unfold importAt
  rw [if_pos ((isLineStart_iff hi _).mpr hline), htext, x.read?_text_append hends]
  rfl

/-- Where no stretch stands, no import is read. -/
theorem importAt_eq_none (h : ∀ x : ImportStretch, ¬ x.StandsAt t i) (hi : i ≤ t.length) :
    importAt ⟨(t.take i).getLast?, t.drop i⟩ = none := by
  unfold importAt
  split
  · rename_i hline
    cases hread : ImportLine.read? (t.drop i) with
    | none => rfl
    | some line =>
      obtain ⟨x, rest, htext, hends, -⟩ := exists_stretch_of_read? hread
      exact absurd ⟨(isLineStart_iff hi _).mp hline, rest, htext, hends⟩ (h x)
  · rfl

theorem ImportStretch.StandsAt.stop_le (h : x.StandsAt t i) : i + x.text.length ≤ t.length := by
  obtain ⟨-, rest, htext, -⟩ := h
  have hlength := congrArg List.length htext
  have hpos := List.length_pos_of_ne_nil x.text_ne_nil
  rw [List.length_drop, List.length_append] at hlength
  omega

end

/-- From every place on a text has its sightings. -/
theorem exists_leftmost (t : Text) (start : Nat) : ∃ found, Leftmost t start found := by
  induction hleft : t.length - start using Nat.strong_induction_on generalizing start with
  | _ left ih =>
    by_cases hsome : ∃ i, start ≤ i ∧ ∃ x : ImportStretch, x.StandsAt t i
    · classical
      -- The least place is next, and less is left behind it.
      obtain ⟨hfrom, x, hstands⟩ := Nat.find_spec hsome
      have hstop := hstands.stop_le
      have hpos := List.length_pos_of_ne_nil x.text_ne_nil
      obtain ⟨found, hfound⟩ := ih (t.length - (Nat.find hsome + x.text.length)) (by omega)
        (Nat.find hsome + x.text.length) rfl
      refine ⟨⟨Nat.find hsome, x⟩ :: found, .next hfrom hstands ?_ hfound⟩
      intro i hi hlt y hy
      exact Nat.find_min hsome hlt ⟨hi, y, hy⟩
    · exact ⟨[], .nothing fun i hi x hx => hsome ⟨i, hi, x, hx⟩⟩

namespace Leftmost

variable {t : Text} {start : Nat} {found : List Sighting}

theorem le_start (h : Leftmost t start found) : ∀ f ∈ found, start ≤ f.start := by
  induction h with
  | nothing => exact fun f hf => absurd hf List.not_mem_nil
  | next hfrom hstands hfirst hrest ih =>
    intro f hf
    rcases List.mem_cons.mp hf with rfl | hmem
    · exact hfrom
    · have hstop := ih f hmem
      unfold Sighting.stop at hstop
      omega

theorem standsAt (h : Leftmost t start found) : ∀ f ∈ found, f.stretch.StandsAt t f.start := by
  induction h with
  | nothing => exact fun f hf => absurd hf List.not_mem_nil
  | next hfrom hstands hfirst hrest ih => exact List.forall_mem_cons.mpr ⟨hstands, ih⟩

/-- Each stretch ends before the next one begins. -/
theorem pairwise (h : Leftmost t start found) : found.Pairwise fun f g => f.stop ≤ g.start := by
  induction h with
  | nothing => exact List.Pairwise.nil
  | next hfrom hstands hfirst hrest ih => exact List.pairwise_cons.mpr ⟨hrest.le_start, ih⟩

/-- A stretch stands at no other place than inside the sightings. -/
theorem exists_mem (h : Leftmost t start found) {i : Nat} (hi : start ≤ i) {x : ImportStretch}
    (hx : x.StandsAt t i) : ∃ f ∈ found, f.start ≤ i ∧ i < f.stop := by
  induction h with
  | nothing hnone => exact absurd hx (hnone i hi x)
  | @next start f found hfrom hstands hfirst hrest ih =>
    by_cases hbefore : i < f.start
    · exact absurd hx (hfirst i hi hbefore x)
    by_cases hinside : i < f.stop
    · exact ⟨f, List.mem_cons_self, by omega, hinside⟩
    · obtain ⟨g, hg, hplace⟩ := ih (by omega)
      exact ⟨g, List.mem_cons_of_mem f hg, hplace⟩

/-- The search passes over a part of a text in which no stretch stands. -/
theorem findsFrom_of_none {a b : Nat} (hab : a ≤ b) (hb : b ≤ t.length)
    (hnone : ∀ i, a ≤ i → i < b → ∀ x : ImportStretch, ¬ x.StandsAt t i) :
    Text.findsFrom importAt 0 (t.take a).getLast? (t.drop a) =
      Text.findsFrom importAt 0 (t.take b).getLast? (t.drop b) := by
  let gap := (t.drop a).take (b - a)
  have htake : t.take a ++ gap = t.take b := by
    rw [← List.take_add, Nat.add_sub_cancel' hab]
  have hdrop : t.drop a = gap ++ t.drop b := by
    have hsplit := (List.take_append_drop (b - a) (t.drop a)).symm
    rwa [List.drop_drop, Nat.add_sub_cancel' hab] at hsplit
  have hbefore : gap.getLast?.or (t.take a).getLast? = (t.take b).getLast? := by
    rw [← htake, List.getLast?_append]
  rw [hdrop, Text.findsFrom_append, hbefore]
  intro front c back hgap
  -- The place of `c` lies between the two.
  have hlength : a + front.length < b := by
    have hle := congrArg List.length hgap
    simp only [gap, List.length_take, List.length_drop, List.length_append, List.length_cons] at hle
    omega
  have hhere := importAt_eq_none (hnone (a + front.length) (by omega) hlength) (by omega)
  have hfront : t.take (a + front.length) = t.take a ++ front := by
    rw [List.take_add, hdrop, hgap, List.append_assoc, List.take_left]
  have hback : t.drop (a + front.length) = c :: (back ++ t.drop b) := by
    rw [← List.drop_drop, hdrop, hgap, List.append_assoc, List.drop_left]
    rfl
  rwa [hfront, hback, List.getLast?_append] at hhere

/-- The search reads a stretch, and goes on behind it. -/
theorem findsFrom_of_standsAt {i : Nat} {x : ImportStretch} (h : x.StandsAt t i) :
    Text.findsFrom importAt 0 (t.take i).getLast? (t.drop i) =
      x.line :: Text.findsFrom importAt 0 (t.take (i + x.text.length)).getLast?
        (t.drop (i + x.text.length)) := by
  have hstop := h.stop_le
  have hread := h.importAt_eq (by omega)
  obtain ⟨-, rest, htext, -⟩ := h
  obtain ⟨tail, hraw, htail⟩ := x.exists_text_eq
  have hrest : t.drop (i + x.text.length) = rest := by
    rw [← List.drop_drop, htext, List.drop_left]
  have hlast : (t.take (i + x.text.length)).getLast? = tail.getLast?.or x.line.raw.getLast? := by
    have htake : t.take (i + x.text.length) = t.take i ++ x.text := by
      rw [List.take_add, htext, List.take_left]
    rw [htake, List.getLast?_append_of_ne_nil _ x.text_ne_nil]
    nth_rewrite 1 [hraw]
    exact List.getLast?_append
  have hspaces : ∀ c ∈ tail, ∀ b u, importAt ⟨b, c :: u⟩ = none := fun c hc =>
    importAt_of_ne (Written.ne_i_of_isBlank (isBlank_of_isSpace (htail c hc)))
  have hwhole : t.drop i = x.line.raw ++ (tail ++ rest) := by
    rw [htext, ← List.append_assoc, ← hraw]
  rw [hwhole] at hread ⊢
  rw [Text.findsFrom_of_some x.raw_ne_nil hread, Text.findsFrom_append_of_chars rest _ hspaces,
    hrest, hlast]

/-- The search finds what the sightings say, in their order. -/
theorem findsFrom_eq (h : Leftmost t start found) (hstart : start ≤ t.length) :
    Text.findsFrom importAt 0 (t.take start).getLast? (t.drop start) =
      found.map fun f => f.stretch.line := by
  induction h with
  | @nothing start hnone =>
    rw [findsFrom_of_none hstart le_rfl fun i hi _ => hnone i hi, List.drop_length]
    rfl
  | @next start f found hfrom hstands hfirst hrest ih =>
    have hstop := hstands.stop_le
    rw [findsFrom_of_none hfrom (by omega) hfirst, findsFrom_of_standsAt hstands, List.map_cons]
    exact congrArg (f.stretch.line :: ·) (ih hstop)

theorem importLines_eq (h : Leftmost t 0 found) :
    importLines t = found.map fun f => f.stretch.line := by
  rw [TestScaffold.importLines_eq]
  exact h.findsFrom_eq (Nat.zero_le _)

end Leftmost

/-- Every text has leftmost sightings, and whichever they are, scanning it gives their statements,
in their order. They do not overlap, and no stretch that counts as an import begins outside them. -/
theorem scan_leftmost (s : ScanSettings) (t : Text) :
    (∃ found, Leftmost t 0 found) ∧
      ∀ found, Leftmost t 0 found →
        s.scan t = found.filterMap (fun f => f.stretch.statement? s) ∧
        (∀ f ∈ found, f.stretch.StandsAt t f.start) ∧
        found.Pairwise (fun f g => f.stop ≤ g.start) ∧
        ∀ i (x : ImportStretch), x.StandsAt t i → ∃ f ∈ found, f.start ≤ i ∧ i < f.stop := by
  refine ⟨exists_leftmost t 0, ?_⟩
  intro found h
  refine ⟨?_, h.standsAt, h.pairwise, fun i x hx => h.exists_mem (Nat.zero_le i) hx⟩
  unfold ScanSettings.scan
  rw [h.importLines_eq, List.filterMap_map]
  exact List.filterMap_congr fun f _ => f.stretch.statement?_line s

end TestScaffold
