import TestScaffold.Generation.Invocation
import TestScaffold.Proofs.Disk.Writing
import TestScaffold.Proofs.Generation.Outcome

/-!
Generations on a disk that may not overwrite anything. A file that the destination leads to is
seen and left alone. A file that the destination leads to by a detour is not seen, and the test
is written over it; nothing else of what is there is altered, by one generation or by a batch.
-/

namespace TestScaffold

/-- The text that a request puts into the file at `place`, which its destination leads to by a
detour. -/
def rewritten? (s : Settings) (l : LocalFiles) (r : Request) (place : Place) : Option Text :=
  match r.destination s, plan s l r.location with
  | .ok d, .ok p => if l.detour? d = some place then some p.content else none
  | _, _ => none

def rewrites (s : Settings) : LocalFiles → List Request → Place → List Text
  | _, [], _ => []
  | l, r :: requests, place =>
    (rewritten? s l r place).toList ++
      rewrites s (generate s { store := l } r).1.store requests place

/-- What is at a place that held `entry`, once these texts have been put there. -/
def entryAfter (texts : List Text) (entry : Option Entry) : Option Entry :=
  match texts.getLast? with
  | some text => some (.file (.text text))
  | none => entry

theorem entryAfter_append (xs ys : List Text) (entry : Option Entry) :
    entryAfter (xs ++ ys) entry = entryAfter ys (entryAfter xs entry) := by
  unfold entryAfter
  rw [List.getLast?_append]
  cases ys.getLast? with
  | none => rfl
  | some text => rfl

theorem entryAfter_ne_none {texts : List Text} {entry : Option Entry} (h : entry ≠ none) :
    entryAfter texts entry ≠ none := by
  unfold entryAfter
  cases texts.getLast? with
  | none => exact h
  | some text => exact Option.some_ne_none _

section

variable {s : Settings} {l : LocalFiles} {r : Request} {place : Place}

theorem rewritten?_of_plan {p : TestPlan} (hdest : r.destination s = .ok p.destination)
    (hplan : plan s l r.location = .ok p) :
    rewritten? s l r place =
      if l.detour? p.destination = some place then some p.content else none := by
  unfold rewritten?
  rw [hdest, hplan]

theorem rewritten?_of_holds {d : Path} (hdest : r.destination s = .ok d)
    (hholds : l.holds d = true) : rewritten? s l r place = none := by
  obtain ⟨relative, -, hplan⟩ := Invocation.plan_of_destination l hdest
  have hno : l.detour? d = none := by
    unfold LocalFiles.detour?
    rw [if_pos hholds]
  unfold rewritten?
  rw [hdest, hplan]
  simp [hno]

/-- A write that nothing had to be asked for is one under whose path nothing was found. -/
theorem get?_write_of_plan {w : World LocalFiles} {p : TestPlan} {store : LocalFiles}
    {result : Except FileError Unit} (hunforced : r.overwrite = false)
    (hdest : r.destination s = .ok p.destination)
    (hmay : FileStore.holds w.store p.destination = true → r.overwrite = true)
    (hplan : plan s w.store r.location = .ok p)
    (hwrite : FileStore.write w.store p.destination p.content = (store, result))
    (hplace : w.store.disk.get? place ≠ none) :
    store.disk.get? place =
      entryAfter (rewritten? s w.store r place).toList (w.store.disk.get? place) := by
  have hfree : w.store.holds p.destination = false := by
    cases hholds : w.store.holds p.destination with
    | false => rfl
    | true =>
      have hforced := hmay hholds
      rw [hunforced] at hforced
      cases hforced
  have hget : (w.store.write p.destination p.content).1.disk.get? place = _ :=
    LocalFiles.get?_write hfree hplace
  rw [show w.store.write p.destination p.content = (store, result) from hwrite] at hget
  rw [hget, rewritten?_of_plan hdest hplan]
  split
  · rfl
  · rfl

namespace Invocation

variable {w w' : World LocalFiles} {i : Invocation}

/-- What is at a place stays as it is, unless the place is the end of a detour. -/
theorem Exit.get?_eq (h : Exit s w r w' i) (hclaims : w.inFlight = .empty)
    (hunforced : r.overwrite = false) (hplace : w.store.disk.get? place ≠ none) :
    w'.store.disk.get? place =
      entryAfter (rewritten? s w.store r place).toList (w.store.disk.get? place) := by
  cases h with
  | refused hdest =>
    have hnone : rewritten? s w.store r place = none := by
      unfold rewritten?
      rw [hdest]
    rw [hnone]
    rfl
  | collided hdest hheld =>
    rw [hclaims] at hheld
    cases hheld
  | declined hdest hfree hholds hanswer =>
    rw [rewritten?_of_holds hdest hholds]
    rfl
  | unwritten hdest hfree hmay hplan hwrite =>
    exact get?_write_of_plan hunforced hdest hmay hplan hwrite hplace
  | created hdest hfree hmay hplan hwrite =>
    exact get?_write_of_plan hunforced hdest hmay hplan hwrite hplace

theorem Exit.wellFormed (h : Exit s w r w' i) (hw : w.store.WellFormed) :
    w'.store.WellFormed := by
  have hwritten : ∀ p text, (FileStore.write w.store p text).1.WellFormed :=
    LocalFiles.wellFormed_write hw
  cases h with
  | @unwritten p store cause hdest hfree hmay hplan hwrite =>
    have hwell := hwritten p.destination p.content
    rw [hwrite] at hwell
    exact hwell
  | @created p store hdest hfree hmay hplan hwrite =>
    have hwell := hwritten p.destination p.content
    rw [hwrite] at hwell
    exact hwell
  | _ => exact hw

end Invocation

theorem wellFormed_generate (s : Settings) (hl : l.WellFormed) (r : Request) :
    (generate s { store := l } r).1.store.WellFormed :=
  (Invocation.exit_generate s { store := l } r).wellFormed hl

theorem generateAll_cons (s : Settings) (l : LocalFiles) (r : Request)
    (requests : List Request) :
    (generateAll s { store := l } (r :: requests)).1 =
      (generateAll s { store := (generate s { store := l } r).1.store } requests).1 := by
  have hclaims : (generate s { store := l } r).1.inFlight = .empty :=
    (Invocation.exit_generate s { store := l } r).inFlight
  change (generateAll s (generate s { store := l } r).1 requests).1 = _
  generalize (generate s { store := l } r).1 = after at hclaims ⊢
  cases after with
  | mk store inFlight =>
    obtain rfl : inFlight = .empty := hclaims
    rfl

/-- A batch that may not overwrite anything leaves at each place what was there, or the last of
the texts that come there by detours. -/
theorem get?_generateAll {requests : List Request}
    (hunforced : ∀ r ∈ requests, r.overwrite = false) (hplace : l.disk.get? place ≠ none) :
    (generateAll s { store := l } requests).1.store.disk.get? place =
      entryAfter (rewrites s l requests place) (l.disk.get? place) := by
  induction requests generalizing l with
  | nil => rfl
  | cons r requests ih =>
    -- What the first generation leaves is what the others find.
    have hfirst := (Invocation.exit_generate s { store := l } r).get?_eq rfl
      (hunforced r List.mem_cons_self) hplace
    have hthere : (generate s { store := l } r).1.store.disk.get? place ≠ none := by
      rw [hfirst]
      exact entryAfter_ne_none hplace
    have hrest := ih (fun x hx => hunforced x (List.mem_cons_of_mem r hx)) hthere
    rw [generateAll_cons, hrest, hfirst, ← entryAfter_append]
    rfl

theorem wellFormed_generateAll (s : Settings) (hl : l.WellFormed) (requests : List Request) :
    (generateAll s { store := l } requests).1.store.WellFormed := by
  induction requests generalizing l with
  | nil => exact hl
  | cons r requests ih =>
    rw [generateAll_cons]
    exact ih (wellFormed_generate s hl r)

/-- A file is reached by a detour only from a workspace whose root is written with `..`, or with a
directory of tests that is. -/
theorem up_mem_of_rewritten? (hl : l.WellFormed) (h : rewritten? s l r place ≠ none) :
    ['.', '.'] ∈ r.location.root.segments ∨ ['.', '.'] ∈ (Path.mk s.paths.testsDir).segments := by
  unfold rewritten? at h
  split at h
  · rename_i d p hdest hplan
    split at h
    · rename_i hdetour
      exact Location.up_mem_of_testPath (Request.testPath_of_destination hdest)
        (LocalFiles.up_mem_of_detour? hl hdetour)
    · exact absurd rfl h
  · exact absurd rfl h

theorem up_mem_of_rewrites {requests : List Request} (hl : l.WellFormed)
    (h : rewrites s l requests place ≠ []) :
    ∃ r ∈ requests, ['.', '.'] ∈ r.location.root.segments ∨
      ['.', '.'] ∈ (Path.mk s.paths.testsDir).segments := by
  induction requests generalizing l with
  | nil => exact absurd rfl h
  | cons r requests ih =>
    by_cases hfirst : rewritten? s l r place = none
    · unfold rewrites at h
      rw [hfirst, Option.toList_none, List.nil_append] at h
      obtain ⟨x, hx, hup⟩ := ih (wellFormed_generate s hl r) h
      exact ⟨x, List.mem_cons_of_mem r hx, hup⟩
    · exact ⟨r, List.mem_cons_self, up_mem_of_rewritten? hl hfirst⟩

end

end TestScaffold
