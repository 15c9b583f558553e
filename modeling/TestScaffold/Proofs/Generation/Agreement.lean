import TestScaffold.Proofs.Generation.Outcome
import TestScaffold.Proofs.Path.Components
import TestScaffold.Session

/-!
A plan and the generation that carries it out. The two fail alike, and what is planned is what
is written. A test never lies where its source does, so the source reads the same once its test
is there, and generating the test again changes nothing.
-/

namespace TestScaffold

theorem ofSegment?_testName (f : FileName) :
    Path.Component.ofSegment? (testName f) = some (.name (testName f)) := by
  have hlength := length_testName f
  unfold Path.Component.ofSegment?
  rw [if_neg, if_neg]
  · intro h
    rw [h, List.length_cons, List.length_singleton] at hlength
    omega
  · rintro (h | h)
    · rw [h, List.length_nil] at hlength
      omega
    · rw [h, List.length_singleton] at hlength
      omega

/-- A source in its workspace ends in a file name, and its test in the name made from it. -/
theorem Location.fileName?_of_testPath {l : Location} {s : PathSettings} {d : Path}
    (h : l.testPath s = .ok d) :
    ∃ name, l.source.fileName? = some name ∧
      d.fileName? = some (testName (FileName.ofText name)) := by
  obtain ⟨relative, hrelative⟩ := relative_of_testPath h
  obtain ⟨-, name, hname⟩ := relative_eq_ok hrelative
  have hslash : '/' ∉ testName (FileName.ofText name) :=
    not_slash_mem_testName (Path.not_slash_mem_of_mem_segments
      (Path.mem_segments_of_fileName? hname))
  refine ⟨name, Path.fileName?_of_under? (under?_of_relative hrelative) hname, ?_⟩
  rw [testPath_of_relative s hrelative] at h
  obtain rfl := Except.ok.inj h
  simp only [Path.file?, hname, Option.map_some, Option.getD_some]
  exact Path.fileName?_child _ hslash (ofSegment?_testName _)

/-- A test never lies where its source does: its name is longer. -/
theorem Location.testPath_ne_source {l : Location} {s : PathSettings} {d : Path}
    (h : l.testPath s = .ok d) : d.components ≠ l.source.components := by
  obtain ⟨name, hsource, htest⟩ := fileName?_of_testPath h
  intro heq
  unfold Path.fileName? at hsource htest
  rw [heq, hsource] at htest
  have hname : name = testName (FileName.ofText name) := Option.some.inj htest
  have hlength := length_testName (FileName.ofText name)
  rw [FileName.text_ofText, ← hname] at hlength
  omega

namespace TestPlan

theorem classifyExport_nil (name : Text) : classifyExport [] name = unreadExport := by
  have hdefault : isDefaultExport [] name = false := rfl
  have hnamed : isNamedExport [] name = false := rfl
  unfold classifyExport
  rw [hdefault, hnamed]
  rfl

/-- A source without a text gets the test of one with an empty text. -/
theorem content_ofText_none (s : Settings) (source destination relative : Path) :
    (ofText s source destination relative none).content =
      (ofText s source destination relative (some [])).content := by
  have himports : s.scan.scan [] = [] := rfl
  unfold ofText
  simp only [Option.map_none, Option.map_some, Option.getD_none, Option.getD_some,
    classifyExport_nil, himports, Classified.value]

theorem sourceReadable_summary (s : Settings) (source destination relative : Path)
    (read : Except FileError Text) :
    (ofText s source destination relative read.toOption).summary.sourceReadable = true ↔
      ∃ text, read = .ok text := by
  cases read with
  | error cause => simp [summary, ofText, Except.toOption, Classified.isFallback]
  | ok text => simp [summary, ofText, Except.toOption, Classified.isFallback]

end TestPlan

section

variable {σ : Type} [FileStore σ] {s : Settings} {store : σ} {l : Location}

theorem plan_eq_ok {p : TestPlan} (h : plan s store l = .ok p) :
    ∃ relative, l.relative = .ok relative ∧ l.testPath s.paths = .ok p.destination ∧
      p = TestPlan.ofText s l.source p.destination relative
        (FileStore.read store l.source).toOption := by
  unfold plan at h
  cases hpath : l.testPath s.paths with
  | error e =>
    rw [hpath] at h
    cases h
  | ok d =>
    cases hrelative : l.relative with
    | error e =>
      rw [hpath, hrelative] at h
      cases h
    | ok relative =>
      rw [hpath, hrelative] at h
      obtain rfl := Except.ok.inj h
      exact ⟨relative, rfl, rfl, rfl⟩

theorem plan_eq_error {e : GenerationError} (h : plan s store l = .error e) :
    l.testPath s.paths = .error e := by
  cases hrelative : l.relative with
  | error e' =>
    have hpath := Location.testPath_of_relative_error s.paths hrelative
    unfold plan at h
    rw [hpath] at h
    obtain rfl := Except.error.inj h
    exact hpath
  | ok relative =>
    unfold plan at h
    rw [Location.testPath_of_relative s.paths hrelative, hrelative] at h
    cases h

theorem destination_eq_testPath (hsource : l.source.text ≠ []) (overwrite : Bool) :
    Request.destination s ⟨l, overwrite⟩ = l.testPath s.paths := by
  unfold Request.destination
  rw [if_neg hsource]

theorem generate_of_plan_eq_error {w : World σ} {e : GenerationError} (hsource : l.source.text ≠ [])
    (h : plan s w.store l = .error e) (overwrite : Bool) :
    (generate s w ⟨l, overwrite⟩).2.result? = some (.error e) := by
  have hdest : Request.destination s ⟨l, overwrite⟩ = .error e :=
    (destination_eq_testPath hsource overwrite).trans (plan_eq_error h)
  have hexit := Invocation.exit_generate s w ⟨l, overwrite⟩
  revert hexit
  generalize generate s w ⟨l, overwrite⟩ = x
  obtain ⟨w', i⟩ := x
  intro hexit
  cases hexit with
  | refused hdest' =>
    obtain rfl := Except.error.inj (hdest.symm.trans hdest')
    rfl
  | collided hdest' | declined hdest' | unwritten hdest' | created hdest' =>
    rw [hdest] at hdest'
    cases hdest'

theorem map_content_of_unread {v : σ} {cause : FileError}
    (hread : FileStore.read store l.source = .error cause)
    (hv : FileStore.read v l.source = .ok []) :
    (plan s v l).map TestPlan.content = (plan s store l).map TestPlan.content := by
  unfold plan
  rw [hread, hv]
  cases l.testPath s.paths with
  | error e => rfl
  | ok d =>
    cases l.relative with
    | error e => rfl
    | ok relative =>
      exact congrArg Except.ok (TestPlan.content_ofText_none s l.source d relative).symm

/-- The plan is that of the text of the source, whatever else the store holds. -/
theorem plan_congr {v : σ} (h : FileStore.read v l.source = FileStore.read store l.source) :
    plan s v l = plan s store l := by
  unfold plan
  rw [h]

end

section

variable {s : Settings} {w : World (Switchable MemoryStore)} {l : Location} {p : TestPlan}

/-- The files with the test of a plan among them. -/
def TestPlan.writtenTo (p : TestPlan) (store : Switchable MemoryStore) :
    Switchable MemoryStore :=
  { store with store := store.store.put p.destination (some p.content) }

theorem read_writtenTo_destination (p : TestPlan) (store : Switchable MemoryStore) :
    FileStore.read (p.writtenTo store) p.destination = .ok p.content := by
  change MemoryStore.read _ _ = _
  unfold MemoryStore.read TestPlan.writtenTo
  rw [MemoryStore.entry_put, if_pos rfl]

theorem holds_writtenTo_destination (p : TestPlan) (store : Switchable MemoryStore) :
    FileStore.holds (p.writtenTo store) p.destination = true := by
  change MemoryStore.holds _ _ = _
  unfold MemoryStore.holds TestPlan.writtenTo
  rw [MemoryStore.entry_put, if_pos rfl]
  rfl

theorem read_writtenTo_of_ne {path : Path} (store : Switchable MemoryStore)
    (h : p.destination.components ≠ path.components) :
    FileStore.read (p.writtenTo store) path = FileStore.read store path := by
  change MemoryStore.read _ _ = MemoryStore.read _ _
  unfold MemoryStore.read TestPlan.writtenTo
  rw [MemoryStore.entry_put, if_neg h.symm]

theorem writtenTo_writtenTo (p : TestPlan) (store : Switchable MemoryStore) :
    p.writtenTo (p.writtenTo store) = p.writtenTo store := by
  have hentry : ∀ key, (if key = p.destination.components then some (some p.content)
      else (store.store.put p.destination (some p.content)).entry key) =
      (store.store.put p.destination (some p.content)).entry key := by
    intro key
    rw [MemoryStore.entry_put]
    split <;> rfl
  simp only [TestPlan.writtenTo, MemoryStore.put, Switchable.mk.injEq, MemoryStore.mk.injEq,
    and_true]
  exact funext hentry

theorem plan_writtenTo (hplan : plan s w.store l = .ok p) :
    plan s (p.writtenTo w.store) l = .ok p := by
  obtain ⟨relative, -, hpath, -⟩ := plan_eq_ok hplan
  rw [plan_congr (read_writtenTo_of_ne w.store (Location.testPath_ne_source hpath)), hplan]

/-- A generation that nothing hinders carries out the plan. -/
theorem generate_of_plan (overwrite : Bool) (hsource : l.source.text ≠ [])
    (hplan : plan s w.store l = .ok p) (hfree : w.inFlight.isHeld p.destination = false)
    (hwritable : w.store.readOnly = false)
    (hmay : FileStore.holds w.store p.destination = true → overwrite = true) :
    (generate s w ⟨l, overwrite⟩).1 = { w with store := p.writtenTo w.store } ∧
    (generate s w ⟨l, overwrite⟩).2.result? = some (.ok (.created p.summary)) ∧
    (generate s w ⟨l, overwrite⟩).2.prompts =
      if FileStore.holds w.store p.destination then [p.destination] else [] := by
  obtain ⟨relative, -, hpath, -⟩ := plan_eq_ok hplan
  have hdest : Request.destination s ⟨l, overwrite⟩ = .ok p.destination :=
    (destination_eq_testPath hsource overwrite).trans hpath
  have hexit := Invocation.exit_generate s w ⟨l, overwrite⟩
  revert hexit
  generalize generate s w ⟨l, overwrite⟩ = x
  obtain ⟨w', i⟩ := x
  intro hexit
  cases hexit with
  | refused hdest' =>
    rw [hdest] at hdest'
    cases hdest'
  | collided hdest' hheld =>
    obtain rfl := Except.ok.inj (hdest.symm.trans hdest')
    rw [hfree] at hheld
    cases hheld
  | declined hdest' _ hholds hanswer =>
    obtain rfl := Except.ok.inj (hdest.symm.trans hdest')
    rw [show overwrite = true from hmay hholds] at hanswer
    cases hanswer
  | unwritten hdest' _ _ _ hwrite =>
    rw [Invocation.memory_write, if_neg (by simp [hwritable])] at hwrite
    cases (Prod.mk.inj hwrite).2
  | created hdest' _ _ hplan' hwrite =>
    obtain rfl := Except.ok.inj (hplan.symm.trans hplan')
    rw [Invocation.memory_write, if_neg (by simp [hwritable])] at hwrite
    obtain rfl := (Prod.mk.inj hwrite).1
    exact ⟨rfl, rfl, rfl⟩

end

/-- Asking for a plan changes nothing, and what is claimed does not change the plan. Where the
plan fails, generation fails alike. Where it does not, a generation that finds its destination
free, may write and need not leave an older test alone creates the test that was planned, with
the planned text and the number of its imports as the number of its mocks; the test lies apart
from its source, so to generate it again, with consent, comes to the same and changes nothing.
A source that cannot be read gets the test of an empty one. -/
theorem generate_agrees_with_plan (session : Session MemoryStore) (l : Location)
    (hsource : l.source.text ≠ []) :
    let s := session.settings
    let w := session.world
    let planned := plan s w.store l
    (∀ inFlight : InFlight,
      let other : Session MemoryStore := { session with world := { w with inFlight } }
      other.perform (.plan l) = (other, .planned planned)) ∧
    (∀ e, planned = .error e → ∀ overwrite,
      (generate s w ⟨l, overwrite⟩).2.result? = some (.error e)) ∧
    (∀ p, planned = .ok p →
      p.source = l.source ∧ p.destination.components ≠ l.source.components ∧
      ∀ overwrite, w.inFlight.isHeld p.destination = false → w.store.readOnly = false →
        (FileStore.holds w.store p.destination = false ∨ overwrite = true) →
        let made := generate s w ⟨l, overwrite⟩
        let again := generate s made.1 ⟨l, true⟩
        (∃ test, made.2.result? = some (.ok (.created test)) ∧
          test.source = p.source ∧ test.destination = p.destination ∧
          test.identity = p.identity ∧ test.kind = p.kind ∧ test.style = p.style ∧
          test.mockCount = p.mocks.length ∧ test.mockCount = p.imports.value.length ∧
          (test.sourceReadable = true ↔ ∃ text, FileStore.read w.store l.source = .ok text)) ∧
        FileStore.read made.1.store p.destination = .ok p.content ∧
        again.2.result? = made.2.result? ∧ again.2.prompts = [p.destination] ∧
          again.1 = made.1) ∧
    (∀ cause, FileStore.read w.store l.source = .error cause →
      ∀ v : Switchable MemoryStore, FileStore.read v l.source = .ok [] →
        (plan s v l).map TestPlan.content = planned.map TestPlan.content) := by
  intro s w planned
  refine ⟨?_, ?_, ?_, ?_⟩
  · intro inFlight other
    rfl
  · intro e he
    exact generate_of_plan_eq_error hsource he
  · intro p hplan
    obtain ⟨relative, -, hpath, hp⟩ := plan_eq_ok hplan
    refine ⟨congrArg TestPlan.source hp, Location.testPath_ne_source hpath, ?_⟩
    intro overwrite hfree hwritable hmay
    have hmay' : FileStore.holds w.store p.destination = true → overwrite = true := by
      intro hholds
      simpa [hholds] using hmay
    obtain ⟨hafter, hresult, -⟩ := generate_of_plan overwrite hsource hplan hfree hwritable hmay'
    -- The source lies elsewhere, so the plan is still the same after the test is written.
    obtain ⟨hlast, hagain, hprompts⟩ := generate_of_plan
      (w := { w with store := p.writtenTo w.store }) true hsource (plan_writtenTo hplan) hfree hwritable
      (fun _ => rfl)
    simp only [writtenTo_writtenTo] at hlast
    simp only [holds_writtenTo_destination, if_true] at hprompts
    dsimp only
    rw [hafter, hresult, hlast, hagain, hprompts]
    refine ⟨⟨p.summary, rfl, rfl, rfl, rfl, rfl, rfl, rfl, ?_, ?_⟩,
      read_writtenTo_destination p w.store, rfl, rfl, rfl⟩
    · rw [hp]
      exact List.length_map _
    · rw [hp]
      exact TestPlan.sourceReadable_summary _ _ _ _ _
  · intro cause hread v hv
    exact map_content_of_unread hread hv

/-- The files of a workspace with a source of one import and an older test of it. -/
def retestedFiles : MemoryStore :=
  (MemoryStore.empty.put ⟨"/p/src/a.ts".toList⟩ (some "import b from './b'\n".toList)).put
    ⟨"/p/tests/a.test.ts".toList⟩ (some "// old".toList)

def retested : Session MemoryStore where
  settings := {}
  world := { store := { store := retestedFiles } }

/-- The older test gives way to the one that is planned, which has a mock for the import. -/
theorem generate_agrees_with_plan_retested :
    let l : Location := ⟨⟨"/p".toList⟩, ⟨"/p/src/a.ts".toList⟩⟩
    l.source.text ≠ [] ∧
      ∃ p, plan retested.settings retested.world.store l = .ok p ∧ p.mocks.length = 1 ∧
        FileStore.holds retested.world.store p.destination = true ∧
        let made := generate retested.settings retested.world ⟨l, true⟩
        (∃ test, made.2.result? = some (.ok (.created test)) ∧ test.mockCount = 1) ∧
        FileStore.read made.1.store p.destination = .ok p.content := by
  intro l
  have hsource : l.source.text ≠ [] := by decide
  let p := TestPlan.ofText {} l.source ⟨"/p/tests/a.test.ts".toList⟩ ⟨"src/a.ts".toList⟩
    (some "import b from './b'\n".toList)
  have hplan : plan retested.settings retested.world.store l = .ok p := by decide +kernel
  have hmocks : p.mocks.length = 1 := by decide
  have hholds : FileStore.holds retested.world.store p.destination = true := rfl
  obtain ⟨-, -, hcarried, -⟩ := generate_agrees_with_plan retested l hsource
  obtain ⟨-, -, hgenerate⟩ := hcarried p hplan
  obtain ⟨⟨test, hresult, -, -, -, -, -, hcount, -⟩, hcontent, -⟩ :=
    hgenerate true rfl rfl (Or.inr rfl)
  exact ⟨hsource, p, hplan, hmocks, hholds, ⟨test, hresult, hcount.trans hmocks⟩, hcontent⟩

end TestScaffold
