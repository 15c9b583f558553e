import TestScaffold.Proofs.Generation.Exit

/-!
What a generation leaves behind that nothing interrupts, read off the way it ends: a result, the
claims as they were, the notes and the prompts that go with the result, and files that only a
created test has changed.
-/

namespace TestScaffold

/-- What is told of a generation with this result. -/
def Request.report {σ : Type} [FileStore σ] (r : Request) (store : σ) :
    GenerationResult → List Note
  | .error (.write d cause) =>
    r.warnings store ++ [⟨.error, "Error creating test file: ".toList ++
      (GenerationError.write d cause).message⟩]
  | .error e =>
    [⟨.error, if e.isInputError then e.message
      else "Error creating test file: ".toList ++ e.message⟩]
  | .ok (.skipped d) => [⟨.info, "Test file already exists: ".toList ++ d.text⟩]
  | .ok (.created test) =>
    r.warnings store ++ [⟨.info, "Test file created: ".toList ++ test.destination.text⟩]

/-- What is asked for a request: whether a test that exists may be overwritten, once the
destination is claimed. -/
def Request.questions {σ : Type} [FileStore σ] (s : Settings) (w : World σ) (r : Request) :
    List Path :=
  match r.destination s with
  | .error _ => []
  | .ok d => if w.inFlight.isHeld d = false ∧ FileStore.holds w.store d = true then [d] else []

namespace Invocation

section

variable {σ : Type} [FileStore σ] {s : Settings} {w w' : World σ} {r : Request} {i : Invocation}

theorem Exit.inFlight (h : Exit s w r w' i) : w'.inFlight = w.inFlight := by
  cases h <;> rfl

theorem Exit.report (h : Exit s w r w' i) :
    ∃ result, i.result? = some result ∧ i.notes = r.report w.store result := by
  cases h with
  | @refused e hdest =>
    have hinput := Request.isInputError_of_destination hdest
    refine ⟨.error e, rfl, ?_⟩
    cases e with
    | write d cause => cases hinput
    | _ => rfl
  | @collided d hdest hheld => exact ⟨.error (.inFlight d), rfl, rfl⟩
  | @declined d hdest hfree hholds hanswer => exact ⟨.ok (.skipped d), rfl, rfl⟩
  | @unwritten p store cause hdest hfree hmay hplan hwrite =>
    exact ⟨.error (.write p.destination cause), rfl, rfl⟩
  | @created p store hdest hfree hmay hplan hwrite => exact ⟨.ok (.created p.summary), rfl, rfl⟩

theorem Exit.prompts (h : Exit s w r w' i) : i.prompts = r.questions s w := by
  unfold Request.questions
  cases h with
  | refused hdest => simp only [hdest]
  | collided hdest hheld => simp [hdest, hheld]
  | declined hdest hfree hholds hanswer => simp [hdest, hfree, hholds]
  | unwritten hdest hfree hmay hplan hwrite => simp [hdest, hfree]
  | created hdest hfree hmay hplan hwrite => simp [hdest, hfree]

/-- The errors of a generation: the request is at fault, or the destination is held, or the
write fails. -/
theorem Exit.error_cases {e : GenerationError} (h : Exit s w r w' i)
    (he : i.result? = some (.error e)) :
    e.isInputError = true ∨ (∃ d, e = .inFlight d) ∨ ∃ d cause, e = .write d cause := by
  cases h with
  | @refused e' hdest =>
    obtain rfl : e' = e := by simpa [result?] using he
    exact Or.inl (Request.isInputError_of_destination hdest)
  | @collided d hdest hheld => exact Or.inr (Or.inl ⟨d, by simpa [result?, eq_comm] using he⟩)
  | @unwritten p store cause hdest hfree hmay hplan hwrite =>
    exact Or.inr (Or.inr ⟨p.destination, cause, by simpa [result?, eq_comm] using he⟩)
  | _ => simp [result?] at he

end

variable {s : Settings} {w w' : World (Switchable MemoryStore)} {r : Request} {i : Invocation}

/-- In memory a write fails as a whole, or puts its file in the place of what was there. -/
theorem memory_write (x : Switchable MemoryStore) (path : Path) (content : Text) :
    FileStore.write x path content =
      if x.readOnly then (x, .error .readOnly)
      else ({ x with store := x.store.put path (some content) }, .ok ()) := rfl

theorem Exit.store_of_not_created (h : Exit s w r w' i)
    (hresult : ∀ test, i.result? ≠ some (.ok (.created test))) : w'.store = w.store := by
  cases h with
  | @unwritten p store cause hdest hfree hmay hplan hwrite =>
    rw [memory_write] at hwrite
    split at hwrite
    · exact (Prod.mk.inj hwrite).1.symm
    · cases (Prod.mk.inj hwrite).2
  | @created p store hdest hfree hmay hplan hwrite => exact absurd rfl (hresult p.summary)
  | _ => rfl

theorem Exit.store_of_created {test : CreatedTest} (h : Exit s w r w' i)
    (hresult : i.result? = some (.ok (.created test))) :
    ∃ content, w'.store =
      { w.store with store := w.store.store.put test.destination (some content) } := by
  cases h with
  | @created p store hdest hfree hmay hplan hwrite =>
    obtain rfl : p.summary = test := by simpa [result?] using hresult
    rw [memory_write] at hwrite
    split at hwrite
    · cases (Prod.mk.inj hwrite).2
    · exact ⟨p.content, (Prod.mk.inj hwrite).1.symm⟩
  | _ => simp [result?] at hresult

end Invocation

/-- One generation over files in memory comes to a result. A failure or a skipped test leaves the
files as they were, a created test changes them at its destination at most, and the claims are
always as before. What is told and what is asked goes with the result, each exactly once. -/
theorem generate_all_or_nothing (s : Settings) (w : World (Switchable MemoryStore))
    (r : Request) :
    let after := (generate s w r).1
    let i := (generate s w r).2
    ∃ result, i.result? = some result ∧
      after.inFlight = w.inFlight ∧
      (∀ e, result = .error e → after.store = w.store) ∧
      (∀ d, result = .ok (.skipped d) → after.store = w.store) ∧
      (∀ test, result = .ok (.created test) → after.store.readOnly = w.store.readOnly ∧
        ∀ key, key ≠ test.destination.components →
          after.store.store.entry key = w.store.store.entry key) ∧
      (∀ e, result = .error e →
        e.isInputError = true ∨ (∃ d, e = .inFlight d) ∨ ∃ d cause, e = .write d cause) ∧
      i.notes = r.report w.store result ∧
      i.prompts = r.questions s w := by
  intro after i
  have hexit : Invocation.Exit s w r after i := Invocation.exit_generate s w r
  obtain ⟨result, hresult, hnotes⟩ := hexit.report
  refine ⟨result, hresult, hexit.inFlight, ?_, ?_, ?_, ?_, hnotes, hexit.prompts⟩
  · rintro e rfl
    apply hexit.store_of_not_created
    intro test h
    rw [hresult] at h
    cases h
  · rintro d rfl
    apply hexit.store_of_not_created
    intro test h
    rw [hresult] at h
    cases h
  · rintro test rfl
    obtain ⟨content, hstore⟩ := hexit.store_of_created hresult
    rw [hstore]
    refine ⟨rfl, ?_⟩
    intro key hkey
    rw [MemoryStore.entry_put, if_neg hkey]
  · rintro e rfl
    exact hexit.error_cases hresult

end TestScaffold
