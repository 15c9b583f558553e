import TestScaffold.Path.Basic

/-!
The destinations that are being generated. A destination is claimed before anything is asked or
read for it and released at the very end; two spellings of one path are one destination.
-/

namespace TestScaffold

/-- The claimed destinations, by components. -/
structure InFlight where
  claimed : List Path.Component → Bool

namespace InFlight

def empty : InFlight :=
  ⟨fun _ => false⟩

def isHeld (f : InFlight) (path : Path) : Bool :=
  f.claimed path.components

/-- The destinations with `path` claimed too; none when it is claimed already. -/
def claim? (f : InFlight) (path : Path) : Option InFlight :=
  if f.isHeld path then none
  else some ⟨fun key => decide (key = path.components) || f.claimed key⟩

def release (f : InFlight) (path : Path) : InFlight :=
  ⟨fun key => !decide (key = path.components) && f.claimed key⟩

theorem isHeld_claim? {f g : InFlight} {path other : Path} (h : f.claim? path = some g) :
    g.isHeld other = true ↔ other.components = path.components ∨ f.isHeld other = true := by
  unfold claim? at h
  split at h
  · simp at h
  · obtain rfl := Option.some.inj h
    simp [isHeld]

theorem isHeld_release (f : InFlight) (path other : Path) :
    (f.release path).isHeld other = true ↔
      other.components ≠ path.components ∧ f.isHeld other = true := by
  simp [isHeld, release]

/-- To claim a destination and release it leaves everything as it was. -/
theorem release_of_claim? {f g : InFlight} {path : Path} (h : f.claim? path = some g) :
    g.release path = f := by
  unfold claim? at h
  split at h
  · simp at h
  · rename_i hfree
    obtain rfl := Option.some.inj h
    cases f with
    | mk claimed =>
      simp only [release, InFlight.mk.injEq]
      funext key
      by_cases hk : key = path.components
      · have hfalse : claimed path.components = false := by simpa [isHeld] using hfree
        simp [hk, hfalse]
      · simp [hk]

end InFlight

end TestScaffold
