import TestScaffold.Proofs.Disk.Directories
import TestScaffold.Proofs.Generation.CarriedOut
import TestScaffold.Proofs.Generation.Detour
import TestScaffold.Proofs.Workspace.Sources

/-!
Files to which tests have been added. Directories are made where nothing was, and files are written
under the names of tests only, so what is read of a source is the same before and after; a test
that is planned later is planned as it would have been at first.
-/

namespace TestScaffold

namespace LocalFiles

/-- `l'` comes from `l` when directories are made and files are written that are named as tests. -/
inductive Tested (l : LocalFiles) : LocalFiles → Prop
  | refl : Tested l l
  | directory {m : LocalFiles} (h : Tested l m) (place : Place)
      (hnone : m.disk.get? place = none) :
      Tested l { m with disk := m.disk.put place .directory }
  | test {m : LocalFiles} (h : Tested l m) (place : Place) (content : Content)
      (htest : Disk.isTestPlace place = true) (hfree : m.disk.get? place ≠ some .directory) :
      Tested l { m with disk := m.disk.put place (.file content) }

variable {l l' m : LocalFiles} {p : Path} {place : Place}

namespace Tested

theorem trans (h : l.Tested l') (h' : l'.Tested m) : l.Tested m := by
  induction h' with
  | refl => exact h
  | directory _ place hnone ih => exact .directory ih place hnone
  | test _ place content htest hfree ih => exact .test ih place content htest hfree

theorem later (h : l.Tested l') : l.Later l' := by
  induction h with
  | refl => exact Later.refl l
  | @directory m _ place hnone ih =>
    exact ih.trans ⟨fun other hother => by
      rw [(Disk.grown_put hnone).get?_of_ne_none (hother ▸ Option.some_ne_none _), hother], rfl⟩
  | test _ place content _ hfree ih => exact ih.trans (later_put hfree content)

/-- A file remains a file, though a test may have another text. -/
theorem exists_file (h : l.Tested l') {content : Content}
    (hfile : l.disk.get? place = some (.file content)) :
    ∃ content', l'.disk.get? place = some (.file content') := by
  induction h with
  | refl => exact ⟨content, hfile⟩
  | directory _ other hnone ih =>
    obtain ⟨content', hthere⟩ := ih
    refine ⟨content', ?_⟩
    rw [(Disk.grown_put hnone).get?_of_ne_none (hthere ▸ Option.some_ne_none _), hthere]
  | test _ other written _ _ ih =>
    obtain ⟨content', hthere⟩ := ih
    have hroot : place ≠ [] := by
      rintro rfl
      cases (Disk.get?_root _).symm.trans hthere
    rw [Disk.get?_put, if_neg hroot]
    split
    · exact ⟨written, rfl⟩
    · exact ⟨content', hthere⟩

theorem within (h : l.Tested l') : l.disk.Within l'.disk :=
  ⟨h.later.directories, fun _ _ hfile => h.exists_file hfile⟩

/-- What is not named as a test is there unchanged, or is a directory where nothing was. -/
theorem get?_eq_or (h : l.Tested l') (hplace : Disk.isTestPlace place = false) :
    l'.disk.get? place = l.disk.get? place ∨
      l.disk.get? place = none ∧ l'.disk.get? place = some .directory := by
  induction h with
  | refl => exact Or.inl rfl
  | @directory m _ other hnone ih =>
    rcases Disk.grown_put hnone place with hsame | ⟨hfree, hmade⟩
    · rw [show (m.disk.put other .directory).get? place = _ from hsame]
      exact ih
    · rcases ih with hold | ⟨-, hdirectory⟩
      · exact Or.inr ⟨hold.symm.trans hfree, hmade⟩
      · cases hfree.symm.trans hdirectory
  | @test m _ other written htest _ ih =>
    have hne : place ≠ other := by
      rintro rfl
      cases hplace.symm.trans htest
    change (m.disk.put other (.file written)).get? place = _ ∨
      _ ∧ (m.disk.put other (.file written)).get? place = _
    rw [Disk.get?_put_of_ne _ _ hne]
    exact ih

theorem content?_eq (h : l.Tested l') (hplace : Disk.isTestPlace place = false) :
    l'.disk.content? place = l.disk.content? place := by
  unfold Disk.content?
  rcases h.get?_eq_or hplace with hsame | ⟨hnone, hdirectory⟩
  · rw [hsame]
  · rw [hnone, hdirectory]

theorem get?_of_file (h : l.Tested l') {content : Content}
    (hfile : l.disk.get? place = some (.file content)) (hplace : Disk.isTestPlace place = false) :
    l'.disk.get? place = some (.file content) := by
  rcases h.get?_eq_or hplace with hsame | ⟨hnone, -⟩
  · rw [hsame, hfile]
  · cases hnone.symm.trans hfile

theorem isSourceFile (h : l.Tested l') (hp : l.IsSourceFile p) : l'.IsSourceFile p := by
  obtain ⟨place, content, hpoints, hfile, hplace⟩ := hp
  exact ⟨place, content, hpoints.later h.later, h.get?_of_file hfile hplace, hplace⟩

/-- A source is read as it was. -/
theorem read_eq (h : l.Tested l') (hp : l.IsSourceFile p) : l'.read p = l.read p := by
  obtain ⟨place, content, hpoints, hfile, hplace⟩ := hp
  have hbefore := hpoints.find
  have hafter := (hpoints.later h.later).find
  rw [hfile] at hbefore
  rw [h.get?_of_file hfile hplace] at hafter
  unfold read LocalFiles.content
  rw [hbefore, hafter]

theorem plan_eq (h : l.Tested l') (s : Settings) {root : Path} (hp : l.IsSourceFile p) :
    plan s l' ⟨root, p⟩ = plan s l ⟨root, p⟩ :=
  plan_congr (h.read_eq hp)

end Tested

theorem tested_makeDirectory {made : LocalFiles} (h : l.makeDirectory p = .ok made) :
    l.Tested made := by
  obtain ⟨directory, name, hnone, -, rfl⟩ := makeDirectory_eq_ok h
  exact .directory .refl _ hnone

theorem tested_makeDirectories (l : LocalFiles) (paths : List Path) :
    l.Tested (l.makeDirectories paths).1 := by
  induction paths with
  | nil => exact .refl
  | cons p above ih =>
    unfold makeDirectories
    split
    · exact .refl
    cases hmake : l.makeDirectory p with
    | ok made => exact tested_makeDirectory hmake
    | error e =>
      cases e with
      | notFound =>
        rcases habove : l.makeDirectories above with ⟨l₁, e | _⟩
        · rw [habove] at ih
          simpa only [habove] using ih
        · rw [habove] at ih
          cases hagain : l₁.makeDirectory p with
          | ok made =>
            simp only [hagain]
            exact ih.trans (tested_makeDirectory hagain)
          | error e =>
            simp only [hagain]
            exact ih
      | _ => exact .refl

theorem PointsTo.isTestPlace (h : l.PointsTo p place) {name : Text}
    (hname : p.fileName? = some name) (htest : isTestName name = true) :
    Disk.isTestPlace place = true := by
  obtain ⟨init, last, directory, hsegments, hlast, -, rfl⟩ := h
  have hend : p.segments.getLast? = some last := by rw [hsegments, List.getLast?_concat]
  have hfile := Path.fileName?_of_segments hend hlast.ofSegment?_eq
  rw [hname] at hfile
  obtain rfl := Option.some.inj hfile
  have hslash : '/' ∉ name :=
    Path.not_slash_mem_of_mem_segments (List.mem_of_mem_getLast? hend)
  unfold Disk.isTestPlace
  rw [List.getLast?_concat, Option.any_some, htest, Bool.true_and, decide_eq_true_eq]
  exact ⟨hlast, hslash⟩

/-- To write under the name of a test adds a test, or makes directories at the most. -/
theorem tested_write {name : Text} (hname : p.fileName? = some name)
    (htest : isTestName name = true) (text : Text) : l.Tested (l.write p text).1 := by
  have hmade := tested_makeDirectories l p.parents
  unfold write
  rcases hdirectories : l.makeDirectories p.parents with ⟨made, e | _⟩
  · rw [hdirectories] at hmade
    exact hmade
  · rw [hdirectories] at hmade
    cases hwrite : made.writeFile p text with
    | error e =>
      simp only [hwrite]
      exact hmade
    | ok l' =>
      obtain ⟨place, hpoints, hfree, rfl⟩ := writeFile_eq_ok_iff.mp hwrite
      simp only [hwrite]
      exact .test hmade place _ (hpoints.isTestPlace hname htest) hfree

end LocalFiles

section

variable {s : Settings} {w w' : World LocalFiles} {r : Request} {i : Invocation}

theorem Invocation.Exit.tested (h : Exit s w r w' i) (hextension : r.location.source.extension ≠ []) :
    w.store.Tested w'.store := by
  have hwritten : ∀ p : TestPlan, r.destination s = .ok p.destination →
      w.store.Tested (FileStore.write w.store p.destination p.content).1 := by
    intro p hdest
    obtain ⟨name, hname, htest⟩ := Location.isTestName_of_testPath
      (Request.testPath_of_destination hdest) hextension
    exact LocalFiles.tested_write hname htest p.content
  cases h with
  | @unwritten p store cause hdest hfree hmay hplan hwrite =>
    have htested := hwritten p hdest
    rw [hwrite] at htested
    exact htested
  | @created p store hdest hfree hmay hplan hwrite =>
    have htested := hwritten p hdest
    rw [hwrite] at htested
    exact htested
  | _ => exact .refl

theorem tested_generate (s : Settings) (l : LocalFiles)
    (hextension : r.location.source.extension ≠ []) :
    l.Tested (generate s { store := l } r).1.store :=
  (Invocation.exit_generate s { store := l } r).tested hextension

/-- A batch of sources with extensions adds tests. -/
theorem tested_generateAll (s : Settings) (l : LocalFiles) {requests : List Request}
    (hextensions : ∀ r ∈ requests, r.location.source.extension ≠ []) :
    l.Tested (generateAll s { store := l } requests).1.store := by
  induction requests generalizing l with
  | nil => exact .refl
  | cons r requests ih =>
    have hfirst := tested_generate s l (hextensions r List.mem_cons_self)
    rw [generateAll_cons]
    exact hfirst.trans (ih _ fun x hx => hextensions x (List.mem_cons_of_mem r hx))

end

end TestScaffold
