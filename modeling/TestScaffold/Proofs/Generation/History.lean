import TestScaffold.Proofs.Generation.Interleaving

/-!
The history of a generator is a true record of its run: the prompts of an invocation are those
that are recorded of it, and the files are what the recorded writes have made of the first ones.
-/

namespace TestScaffold

namespace Generator

variable {σ : Type}

/-- The accesses that an invocation has made, oldest first. -/
def accesses (g : Generator σ) (k : Nat) : List Access :=
  g.history.filterMap fun entry => if entry.1 = k then some entry.2 else none

theorem mem_accesses_iff {g : Generator σ} {k : Nat} {a : Access} :
    a ∈ g.accesses k ↔ (k, a) ∈ g.history := by
  unfold accesses
  rw [List.mem_filterMap]
  constructor
  · rintro ⟨⟨j, b⟩, hmem, hentry⟩
    dsimp only at hentry
    split at hentry
    · rename_i hjk
      obtain rfl := Option.some.inj hentry
      exact hjk ▸ hmem
    · cases hentry
  · intro hmem
    exact ⟨(k, a), hmem, by simp⟩

variable [FileStore σ]

/-- The history of a generator that began with the files `store`. -/
structure Recorded (store : σ) (g : Generator σ) : Prop where
  /-- Only invocations that there are have made an access. -/
  known : ∀ k a, (k, a) ∈ g.history → k < g.invocations.length
  prompts : ∀ k i, g.invocations[k]? = some i →
    i.prompts = (g.accesses k).filterMap Access.question?
  store : g.world.store = g.history.foldl (fun x entry => entry.2.effect x) store

theorem Recorded.accesses_of_new {store : σ} {g : Generator σ} (hg : g.Recorded store) {k : Nat}
    (hk : g.invocations.length ≤ k) : g.accesses k = [] := by
  rw [List.eq_nil_iff_forall_not_mem]
  intro a ha
  have hlt := hg.known k a (mem_accesses_iff.mp ha)
  omega

theorem getElem?_concat_cases {α : Type} {l : List α} {x y : α} {k : Nat}
    (h : (l ++ [x])[k]? = some y) : l[k]? = some y ∨ (k = l.length ∧ y = x) := by
  rcases Nat.lt_or_ge k l.length with hk | hk
  · rw [List.getElem?_append_left hk] at h
    exact Or.inl h
  · rw [List.getElem?_append_right hk, List.getElem?_singleton] at h
    split at h
    · exact Or.inr ⟨by omega, (Option.some.inj h).symm⟩
    · cases h

theorem getElem?_set_cases {α : Type} {l : List α} {x y : α} {j k : Nat}
    (h : (l.set k x)[j]? = some y) : (j ≠ k ∧ l[j]? = some y) ∨ (j = k ∧ y = x) := by
  rw [List.getElem?_set] at h
  by_cases hkj : k = j
  · rw [if_pos hkj] at h
    split at h
    · exact Or.inr ⟨hkj.symm, (Option.some.inj h).symm⟩
    · cases h
  · rw [if_neg hkj] at h
    exact Or.inl ⟨Ne.symm hkj, h⟩

theorem recorded_fresh (settings : Settings) (store : σ) :
    (fresh settings store).Recorded store where
  known := by simp [fresh]
  prompts := by simp [fresh]
  store := rfl

theorem Recorded.start {store : σ} {g : Generator σ} (hg : g.Recorded store) (request : Request) :
    (g.move (.start request)).Recorded store := by
  refine ⟨?_, ?_, hg.store⟩
  · intro k a ha
    have hk := hg.known k a ha
    simp only [move, List.length_append, List.length_singleton]
    omega
  · intro k i hi
    change i.prompts = (g.accesses k).filterMap Access.question?
    rcases getElem?_concat_cases hi with hold | ⟨rfl, rfl⟩
    · exact hg.prompts k i hold
    · rw [hg.accesses_of_new (Nat.le_refl _)]
      rfl

/-- A step adds its access to those of its invocation, and to those of no other. -/
theorem accesses_advance {g : Generator σ} {k : Nat} {b : Invocation}
    (hk : g.invocations[k]? = some b) (j : Nat) :
    (g.move (.advance k)).accesses j =
      g.accesses j ++ if j = k then b.access?.toList else [] := by
  unfold accesses
  rw [move_advance hk]
  dsimp only
  rw [List.filterMap_append]
  by_cases hjk : j = k
  · rw [if_pos hjk]
    cases b.access? with
    | none => rfl
    | some a => simp [hjk]
  · rw [if_neg hjk]
    cases b.access? with
    | none => rfl
    | some a => simp [Ne.symm hjk]

theorem Recorded.advance {store : σ} {g : Generator σ} (hg : g.Recorded store) (k : Nat) :
    (g.move (.advance k)).Recorded store := by
  cases hk : g.invocations[k]? with
  | none =>
    simp only [move, hk]
    exact hg
  | some b =>
    have hstep := Invocation.transition_step g.settings g.world b
    have hkl := (List.getElem?_eq_some_iff.mp hk).1
    refine ⟨?_, ?_, ?_⟩
    · intro j a ha
      have hmem := mem_accesses_iff.mpr ha
      rw [accesses_advance hk, List.mem_append] at hmem
      rw [move_advance hk]
      simp only [List.length_set]
      rcases hmem with hold | hnew
      · exact hg.known j a (mem_accesses_iff.mp hold)
      · split at hnew
        · omega
        · cases hnew
    · intro j i hj
      rw [accesses_advance hk, List.filterMap_append]
      rw [move_advance hk] at hj
      rcases getElem?_set_cases hj with ⟨hne, hold⟩ | ⟨rfl, rfl⟩
      · rw [if_neg hne, List.filterMap_nil, List.append_nil]
        exact hg.prompts j i hold
      · rw [hstep.prompts, hg.prompts j b hk, if_pos rfl]
        cases b.access? with
        | none => rfl
        | some a => cases a <;> rfl
    · rw [move_advance hk]
      dsimp only
      rw [hstep.store, List.foldl_append, ← hg.store]
      cases b.access? with
      | none => rfl
      | some a => rfl

theorem recorded_move {store : σ} (g : Generator σ) (m : Move) (hg : g.Recorded store) :
    (g.move m).Recorded store := by
  cases m with
  | start request => exact hg.start request
  | advance k => exact hg.advance k
  | claim path =>
    simp only [move]
    cases g.world.inFlight.claim? path with
    | none => exact hg
    | some f => exact ⟨hg.known, hg.prompts, hg.store⟩
  | drop k =>
    simp only [move]
    cases g.guards[k]? with
    | none => exact hg
    | some path => exact ⟨hg.known, hg.prompts, hg.store⟩

end Generator

end TestScaffold
