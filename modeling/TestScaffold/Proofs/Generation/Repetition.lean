import TestScaffold.Proofs.Generation.Single
import TestScaffold.Proofs.Generation.Tested

/-!
A forced batch that is carried out again. Each of its tests lands where it landed the first time:
what was written stays in its place, and what kept a test from being written has not gone away.
So the same texts are written to the same files, and what each holds in the end it held before.
-/

namespace TestScaffold

namespace LocalFiles

variable {l l' m : LocalFiles} {p : Path} {place : Place} {text : Text}

/-- The place at which a write leaves its file; none when the write fails. -/
def landing? (l : LocalFiles) (p : Path) (text : Text) : Option Place :=
  match l.write p text with
  | (after, .ok ()) => (after.find p).toOption.map Prod.fst
  | (_, .error _) => none

theorem landing?_of_write (h : l.write p text = (l', .ok ())) (hpoints : l'.PointsTo p place) :
    l.landing? p text = some place := by
  obtain ⟨-, other, hother, hfile, -⟩ := write_eq_ok h
  obtain rfl := hpoints.unique hother
  have hfind := hpoints.find
  rw [hfile] at hfind
  unfold landing?
  rw [h]
  dsimp only
  rw [hfind]
  rfl

theorem landing?_of_error {e : FileError} (h : l.write p text = (l', .error e)) :
    l.landing? p text = none := by
  unfold landing?
  rw [h]

/-- What files hold after a write is what they held, but for the one that it leaves. -/
theorem content?_write (l : LocalFiles) (p : Path) (text : Text) (place : Place) :
    (l.write p text).1.disk.content? place =
      if l.landing? p text = some place then some (.text text) else l.disk.content? place := by
  have hkept : (l.makeDirectories p.parents).1.disk.content? place = l.disk.content? place := by
    unfold Disk.content?
    rcases (extends_makeDirectories l p.parents).grown place with heq | ⟨hnone, hdirectory⟩
    · rw [heq]
    · rw [hnone, hdirectory]
  rcases hmade : l.makeDirectories p.parents with ⟨made, e | _⟩
  · have hwrite : l.write p text = (made, .error e) := by
      unfold write
      rw [hmade]
    rw [landing?_of_error hwrite, hwrite, if_neg (Option.some_ne_none place).symm, ← hkept, hmade]
  rw [hmade] at hkept
  cases hfile : made.writeFile p text with
  | error e =>
    have hwrite : l.write p text = (made, .error e) := by
      unfold write
      rw [hmade]
      dsimp only
      rw [hfile]
    rw [landing?_of_error hwrite, hwrite, if_neg (Option.some_ne_none place).symm, ← hkept]
  | ok after =>
    obtain ⟨other, hpoints, hfree, rfl⟩ := writeFile_eq_ok_iff.mp hfile
    have hwrite : l.write p text =
        ({ made with disk := made.disk.put other (.file (.text text)) }, .ok ()) := by
      unfold write
      rw [hmade]
      dsimp only
      rw [hfile]
    have hroot : other ≠ [] := by
      rintro rfl
      exact hfree (Disk.get?_root made.disk)
    rw [landing?_of_write hwrite (hpoints.later (later_put hfree _)), hwrite, ← hkept]
    unfold Disk.content?
    by_cases hplace : place = other
    · subst hplace
      rw [Disk.get?_put_self _ _ hroot, if_pos rfl]
    · rw [Disk.get?_put_of_ne _ _ hplace, if_neg fun h => hplace (Option.some.inj h).symm]

/-- A test lands where it landed before, or cannot be written as before, once more tests have been
added. -/
theorem Tested.landing?_eq (h : (l.write p text).1.Tested m) (hp : p.isAbsolute = true)
    (hwithin : l.disk.Within m.disk) : m.landing? p text = l.landing? p text := by
  rcases hwrite : l.write p text with ⟨after, e | _⟩
  · rw [landing?_of_error hwrite]
    -- What keeps the test from being written is still there.
    rcases hagain : m.write p text with ⟨after', e' | _⟩
    · exact landing?_of_error hagain
    · obtain ⟨after'', hdone⟩ := exists_write_of_within hp hwithin hagain text
      cases hwrite.symm.trans hdone
  · rw [hwrite] at h
    obtain ⟨-, place, hpoints, hfile, -⟩ := write_eq_ok hwrite
    rw [landing?_of_write hwrite hpoints]
    have hthere := hpoints.later h.later
    obtain ⟨content, hstays⟩ := h.exists_file hfile
    have hfree : m.disk.get? place ≠ some .directory := by
      rw [hstays]
      simp
    obtain ⟨after', hagain⟩ := hthere.exists_write hp hfree text
    exact landing?_of_write hagain (hthere.later (write_eq_ok hagain).1)

end LocalFiles

section

variable {s : Settings} {l m : LocalFiles} {root source : Path} {sources : List Path}
  {place : Place} {p : TestPlan}

/-- What a forced generation leaves of the files: they are as they were when its source has no
plan, and as the write of the planned test leaves them otherwise. -/
theorem store_generate_forced (s : Settings) (l : LocalFiles) (hroot : root.isAbsolute = true) :
    (generate s { store := l } (.forced root source)).1.store =
      match plan s l ⟨root, source⟩ with
      | .error _ => l
      | .ok p => (l.write p.destination p.content).1 := by
  rw [(generate_eq_carryOut s l (.forced root source)).1]
  cases hplan : plan s l ⟨root, source⟩ with
  | error e =>
    cases hdest : (Request.forced root source).destination s with
    | error e' => rw [Request.carryOut_of_refused hdest]
    | ok d =>
      obtain ⟨relative, -, hother⟩ := Invocation.plan_of_destination l hdest
      cases hplan.symm.trans hother
  | ok p =>
    rw [Request.carryOut_forced hroot hplan]
    dsimp only
    rcases l.write p.destination p.content with ⟨after, cause | _⟩
    · rfl
    · rfl

/-- The text that a forced generation writes to the file at a place, if it does. -/
def writtenText? (s : Settings) (l : LocalFiles) (root source : Path) (place : Place) :
    Option Text :=
  match plan s l ⟨root, source⟩ with
  | .error _ => none
  | .ok p =>
    if l.landing? p.destination p.content = some place then some p.content else none

/-- The texts that a forced batch writes to the file at a place, one after the other. -/
def writtenTexts (s : Settings) (root : Path) : LocalFiles → List Path → Place → List Text
  | _, [], _ => []
  | l, source :: sources, place =>
    (writtenText? s l root source place).toList ++
      writtenTexts s root (generate s { store := l } (.forced root source)).1.store sources place

theorem tested_generateAll_forced (s : Settings)
    (hsources : ∀ source ∈ sources, l.IsSourceFile source ∧ source.extension ≠ []) :
    l.Tested (generateAll s { store := l } (sources.map (.forced root))).1.store := by
  apply tested_generateAll
  intro r hr
  obtain ⟨source, hsource, rfl⟩ := List.mem_map.mp hr
  exact (hsources source hsource).2

theorem content?_generate_forced (s : Settings) (l : LocalFiles) (hroot : root.isAbsolute = true)
    (source : Path) (place : Place) :
    (generate s { store := l } (.forced root source)).1.store.disk.content? place =
      ((writtenText? s l root source place).map Content.text).or (l.disk.content? place) := by
  rw [store_generate_forced s l hroot]
  unfold writtenText?
  cases plan s l ⟨root, source⟩ with
  | error e => rfl
  | ok p =>
    dsimp only
    rw [LocalFiles.content?_write]
    split
    · rfl
    · rfl

/-- A file holds the last of the texts that a batch has written to it, or what it held before. -/
theorem content?_generateAll_forced (s : Settings) (l : LocalFiles) (hroot : root.isAbsolute = true)
    (sources : List Path) (place : Place) :
    (generateAll s { store := l } (sources.map (.forced root))).1.store.disk.content? place =
      ((writtenTexts s root l sources place).getLast?.map Content.text).or
        (l.disk.content? place) := by
  induction sources generalizing l with
  | nil => rfl
  | cons source sources ih =>
    rw [List.map_cons, generateAll_cons, ih, content?_generate_forced s l hroot, ← Option.or_assoc]
    congr 1
    rw [writtenTexts, List.getLast?_append, Option.map_or]
    cases writtenText? s l root source place with
    | none => rfl
    | some text => rfl

theorem writtenText?_again (hroot : root.isAbsolute = true) (hsource : l.IsSourceFile source)
    (hextension : source.extension ≠ [])
    (htested : (generate s { store := l } (.forced root source)).1.store.Tested m) :
    writtenText? s m root source place = writtenText? s l root source place := by
  have hlater : l.Tested m :=
    (tested_generate (r := .forced root source) s l hextension).trans htested
  rw [store_generate_forced s l hroot] at htested
  unfold writtenText?
  rw [hlater.plan_eq s hsource]
  cases hplan : plan s l ⟨root, source⟩ with
  | error e => rfl
  | ok p =>
    rw [hplan] at htested
    have habsolute := (Location.names_of_testPath (l := ⟨root, source⟩) hroot
      (testPath_of_plan hplan).2).1
    dsimp only
    rw [htested.landing?_eq habsolute hlater.within]

/-- A batch writes the same texts to the same files after it has been carried out, and after more
tests have been added. -/
theorem writtenTexts_again (hroot : root.isAbsolute = true)
    (hsources : ∀ source ∈ sources, l.IsSourceFile source ∧ source.extension ≠ [])
    (htested : (generateAll s { store := l } (sources.map (.forced root))).1.store.Tested m) :
    writtenTexts s root m sources place = writtenTexts s root l sources place := by
  induction sources generalizing l m with
  | nil => rfl
  | cons source sources ih =>
    obtain ⟨hsource, hextension⟩ := hsources source List.mem_cons_self
    have hrest := fun x hx => hsources x (List.mem_cons_of_mem source hx)
    have hfirst := tested_generate (r := .forced root source) s l hextension
    rw [List.map_cons, generateAll_cons] at htested
    let after := (generate s { store := l } (.forced root source)).1.store
    have hkept : ∀ x ∈ sources, after.IsSourceFile x ∧ x.extension ≠ [] :=
      fun x hx => ⟨hfirst.isSourceFile (hrest x hx).1, (hrest x hx).2⟩
    have hothers : after.Tested
        (generateAll s { store := after } (sources.map (.forced root))).1.store :=
      tested_generateAll_forced s hkept
    rw [writtenTexts, writtenTexts, writtenText?_again hroot hsource hextension
      (hothers.trans htested)]
    congr 1
    -- The second batch goes on from files to which the first test has been added once more.
    exact ih hkept (htested.trans (tested_generate (r := .forced root source) s m hextension))

/-- A batch that is carried out again leaves in every file what it left there the first time. -/
theorem content?_generateAll_again (s : Settings) (hroot : root.isAbsolute = true)
    (hsources : ∀ source ∈ sources, l.IsSourceFile source ∧ source.extension ≠ []) (place : Place) :
    let after := (generateAll s { store := l } (sources.map (.forced root))).1.store
    (generateAll s { store := after } (sources.map (.forced root))).1.store.disk.content? place =
      after.disk.content? place := by
  intro after
  rw [content?_generateAll_forced s after hroot,
    writtenTexts_again (l := l) hroot hsources .refl, content?_generateAll_forced s l hroot,
    ← Option.or_assoc, Option.or_self]

end

end TestScaffold
