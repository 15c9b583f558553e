import Mathlib.Data.List.Nodup
import TestScaffold.Generation.InFlight

/-!
The claimed destinations beside the list of those who hold one. A destination is released by
its components and not by its holder, so a release is right only because no two holders have
the same components; that is part of the law here.
-/

namespace TestScaffold

namespace InFlight

/-- The claimed destinations are those of the paths in `live`, and each is claimed once. -/
structure Matches (f : InFlight) (live : List Path) : Prop where
  nodup : (live.map Path.components).Nodup
  isHeld_iff : ∀ p, f.isHeld p = true ↔ p.components ∈ live.map Path.components

theorem matches_empty : empty.Matches [] := by
  refine ⟨List.nodup_nil, ?_⟩
  intro p
  simp [isHeld, empty]

variable {f g : InFlight} {p : Path} {live others : List Path}

theorem claim?_isSome_iff : (f.claim? p).isSome = true ↔ f.isHeld p = false := by
  unfold claim?
  cases hheld : f.isHeld p with
  | false => simp
  | true => simp

theorem isHeld_of_claim? (h : f.claim? p = some g) : f.isHeld p = false := by
  apply claim?_isSome_iff.mp
  rw [h]
  rfl

theorem isHeld_of_claim?_eq_none (h : f.claim? p = none) : f.isHeld p = true := by
  have hsome := (claim?_isSome_iff (f := f) (p := p)).not
  rw [h] at hsome
  simpa using hsome

theorem Matches.perm (h : f.Matches live) (hperm : live.Perm others) : f.Matches others := by
  have hmap := hperm.map Path.components
  refine ⟨hmap.nodup_iff.mp h.nodup, ?_⟩
  intro p
  rw [h.isHeld_iff, hmap.mem_iff]

theorem Matches.claim (h : f.Matches live) (hclaim : f.claim? p = some g) :
    g.Matches (p :: live) := by
  have hfree : p.components ∉ live.map Path.components := by
    rw [← h.isHeld_iff, isHeld_of_claim? hclaim]
    exact Bool.false_ne_true
  refine ⟨List.nodup_cons.mpr ⟨hfree, h.nodup⟩, ?_⟩
  intro q
  rw [isHeld_claim? hclaim, h.isHeld_iff, List.map_cons, List.mem_cons]

theorem Matches.release (h : f.Matches (p :: live)) : (f.release p).Matches live := by
  obtain ⟨hfree, hrest⟩ := List.nodup_cons.mp h.nodup
  refine ⟨hrest, ?_⟩
  intro q
  rw [isHeld_release, h.isHeld_iff, List.map_cons, List.mem_cons]
  constructor
  · rintro ⟨hne, heq | hmem⟩
    · exact absurd heq hne
    · exact hmem
  · intro hmem
    refine ⟨?_, Or.inr hmem⟩
    intro heq
    exact hfree (heq ▸ hmem)

theorem Matches.isHeld_iff_exists (h : f.Matches live) (p : Path) :
    f.isHeld p = true ↔ ∃ q ∈ live, q.components = p.components := by
  rw [h.isHeld_iff, List.mem_map]

theorem Matches.claim?_isSome_iff_forall (h : f.Matches live) (p : Path) :
    (f.claim? p).isSome = true ↔ ∀ q ∈ live, q.components ≠ p.components := by
  rw [claim?_isSome_iff, ← Bool.not_eq_true, h.isHeld_iff_exists]
  push Not
  rfl

end InFlight

end TestScaffold
