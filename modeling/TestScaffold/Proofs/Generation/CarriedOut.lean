import TestScaffold.Generation.Invocation
import TestScaffold.Proofs.Disk.Succession
import TestScaffold.Proofs.Generation.Exit
import TestScaffold.Proofs.Generation.Mirror

/-!
Batches that write a test for each of their sources. Every test is planned from the files as the
tests before it have left them. Of the tests that share a destination the last one is what is found
there in the end; all the others are lost.
-/

namespace TestScaffold

/-- The request that a test be written for a source, whether or not there is one. -/
def Request.forced (root source : Path) : Request :=
  { location := ⟨root, source⟩, overwrite := true }

/-- The tests of the sources are written with these plans, one after the other, from the files `l`
to the files `after`. -/
inductive CarriedOut (s : Settings) (root : Path) :
    LocalFiles → List Path → List TestPlan → LocalFiles → Prop
  | nil (l : LocalFiles) : CarriedOut s root l [] [] l
  | cons {l written after : LocalFiles} {source : Path} {sources : List Path} {p : TestPlan}
      {plans : List TestPlan} (hplan : plan s l ⟨root, source⟩ = .ok p)
      (hwrite : l.write p.destination p.content = (written, .ok ()))
      (hrest : CarriedOut s root written sources plans after) :
      CarriedOut s root l (source :: sources) (p :: plans) after

/-- The last of the plans whose tests go to this destination. -/
def lastFor (plans : List TestPlan) (d : Path) : Option TestPlan :=
  plans.reverse.find? fun p => p.destination.components = d.components

theorem lastFor_cons (p : TestPlan) (plans : List TestPlan) (d : Path) :
    lastFor (p :: plans) d = (lastFor plans d).or
      (if p.destination.components = d.components then some p else none) := by
  unfold lastFor
  rw [List.reverse_cons, List.find?_append, List.find?_singleton]
  simp only [decide_eq_true_eq]

theorem exists_lastFor {plans : List TestPlan} {p : TestPlan} (hp : p ∈ plans) :
    ∃ last, lastFor plans p.destination = some last := by
  unfold lastFor
  rw [← Option.isSome_iff_exists, List.find?_isSome]
  exact ⟨p, List.mem_reverse.mpr hp, by simp⟩

/-- When no two plans share a destination, the last one for a destination is the only one. -/
theorem eq_of_lastFor {plans : List TestPlan} {p last : TestPlan}
    (hnodup : (plans.map (·.destination.components)).Nodup) (hp : p ∈ plans)
    (hlast : lastFor plans p.destination = some last) : last = p := by
  unfold lastFor at hlast
  have hmem : last ∈ plans := List.mem_reverse.mp (List.mem_of_find?_eq_some hlast)
  have hsame : last.destination.components = p.destination.components := by
    simpa using List.find?_some hlast
  exact List.inj_on_of_nodup_map hnodup hmem hp hsame

theorem testPath_of_plan {σ : Type} [FileStore σ] {s : Settings} {store : σ} {l : Location}
    {p : TestPlan} (h : plan s store l = .ok p) :
    p.source = l.source ∧ l.testPath s.paths = .ok p.destination := by
  unfold plan at h
  cases hdest : l.testPath s.paths with
  | error e =>
    rw [hdest] at h
    cases h
  | ok d =>
    cases hrelative : l.relative with
    | error e =>
      rw [hdest, hrelative] at h
      cases h
    | ok relative =>
      rw [hdest, hrelative] at h
      obtain rfl := Except.ok.inj h
      exact ⟨rfl, rfl⟩

/-- Where destinations of one workspace point is one place only if they are one. -/
theorem LocalFiles.PointsTo.testPath_eq_iff {l : LocalFiles} {s : PathSettings}
    {root a b d e : Path} {place other : Place} (hd : l.PointsTo d place) (he : l.PointsTo e other)
    (hroot : root.isAbsolute = true) (ha : Location.testPath ⟨root, a⟩ s = .ok d)
    (hb : Location.testPath ⟨root, b⟩ s = .ok e) :
    place = other ↔ d.components = e.components := by
  obtain ⟨hdabsolute, xs, hdsteps, hxs, hxnames⟩ :=
    Location.names_of_testPath (l := ⟨root, a⟩) hroot ha
  obtain ⟨heabsolute, ys, hesteps, hys, hynames⟩ :=
    Location.names_of_testPath (l := ⟨root, b⟩) hroot hb
  exact hd.eq_iff he hdabsolute heabsolute hdsteps hesteps hxs hys hxnames hynames

namespace CarriedOut

variable {s : Settings} {root : Path} {l after : LocalFiles} {sources : List Path}
  {plans : List TestPlan} {p : TestPlan} {d : Path} {place : Place}

theorem later (h : CarriedOut s root l sources plans after) : l.Later after := by
  induction h with
  | nil l => exact LocalFiles.Later.refl l
  | cons hplan hwrite hrest ih => exact (LocalFiles.write_eq_ok hwrite).1.trans ih

theorem sources_eq (h : CarriedOut s root l sources plans after) :
    plans.map TestPlan.source = sources := by
  induction h with
  | nil l => rfl
  | cons hplan hwrite hrest ih => rw [List.map_cons, (testPath_of_plan hplan).1, ih]

theorem testPath_eq (h : CarriedOut s root l sources plans after) (hp : p ∈ plans) :
    Location.testPath ⟨root, p.source⟩ s.paths = .ok p.destination := by
  induction h with
  | nil l => cases hp
  | cons hplan hwrite hrest ih =>
    rcases List.mem_cons.mp hp with rfl | htail
    · obtain ⟨hsource, hdest⟩ := testPath_of_plan hplan
      rw [hsource]
      exact hdest
    · exact ih htail

/-- Once a test is written its destination points to a place, whatever is written afterwards. -/
theorem pointsTo (h : CarriedOut s root l sources plans after) (hp : p ∈ plans) :
    ∃ place, after.PointsTo p.destination place := by
  induction h with
  | nil l => cases hp
  | cons hplan hwrite hrest ih =>
    rcases List.mem_cons.mp hp with rfl | htail
    · obtain ⟨-, place, hpoints, -⟩ := LocalFiles.write_eq_ok hwrite
      exact ⟨place, hpoints.later hrest.later⟩
    · exact ih htail

section

variable (hroot : root.isAbsolute = true) {a : Path}
  (hd : Location.testPath ⟨root, a⟩ s.paths = .ok d)
include hroot hd

/-- No test is written to what is at a destination that none of the plans has. -/
theorem get?_of_lastFor_eq_none (h : CarriedOut s root l sources plans after)
    (hpoints : after.PointsTo d place) (hlast : lastFor plans d = none)
    (hplace : l.disk.get? place ≠ none) : after.disk.get? place = l.disk.get? place := by
  induction h with
  | nil l => rfl
  | @cons l written after source sources p plans hplan hwrite hrest ih =>
    rw [lastFor_cons, Option.or_eq_none_iff] at hlast
    obtain ⟨hothers, hthis⟩ := hlast
    have hne : p.destination.components ≠ d.components := by
      intro heq
      rw [if_pos heq] at hthis
      cases hthis
    obtain ⟨-, place', hpoints', -, hframe⟩ := LocalFiles.write_eq_ok hwrite
    have hplaces : place ≠ place' := by
      intro heq
      have hsame := (hpoints.testPath_eq_iff (hpoints'.later hrest.later) hroot hd
        (testPath_of_plan hplan).2).mp heq
      exact hne hsame.symm
    have hkept := hframe place hplaces hplace
    rw [← hkept] at hplace ⊢
    exact ih hpoints hothers hplace

/-- What is at a destination in the end is the test that was written there last. -/
theorem get?_of_lastFor (h : CarriedOut s root l sources plans after)
    (hpoints : after.PointsTo d place) {last : TestPlan} (hlast : lastFor plans d = some last) :
    after.disk.get? place = some (.file (.text last.content)) := by
  induction h with
  | nil l => cases hlast
  | @cons l written after source sources p plans hplan hwrite hrest ih =>
    rw [lastFor_cons] at hlast
    cases hothers : lastFor plans d with
    | some q =>
      rw [hothers] at hlast
      obtain rfl := Option.some.inj hlast
      exact ih hpoints hothers
    | none =>
      -- No later test goes there, so this one stays.
      rw [hothers, Option.none_or] at hlast
      split at hlast
      · rename_i heq
        obtain rfl := Option.some.inj hlast
        obtain ⟨-, place', hpoints', hfile, -⟩ := LocalFiles.write_eq_ok hwrite
        have hplaces : place = place' :=
          (hpoints.testPath_eq_iff (hpoints'.later hrest.later) hroot hd
            (testPath_of_plan hplan).2).mpr heq.symm
        subst hplaces
        have hthere : written.disk.get? place ≠ none := by
          rw [hfile]
          exact Option.some_ne_none _
        rw [get?_of_lastFor_eq_none hroot hd hrest hpoints hothers hthere, hfile]
      · cases hlast

end

/-- The tests have different destinations exactly when no two of the sources belong in one
place. -/
theorem nodup_iff (h : CarriedOut s root l sources plans after) (hroot : root.isAbsolute = true) :
    (plans.map (·.destination.components)).Nodup ↔
      ((plans.map TestPlan.source).map fun source =>
        Location.mirrored ⟨root, source⟩ s.paths).Nodup := by
  rw [List.map_map]
  unfold List.Nodup
  rw [List.pairwise_map, List.pairwise_map]
  apply List.Pairwise.iff_of_mem
  intro p q hp hq
  exact not_congr (Location.components_testPath_eq_iff hroot (h.testPath_eq hp) (h.testPath_eq hq))

/-- Under the destination of a test the last test is read that goes there. -/
theorem read_eq (h : CarriedOut s root l sources plans after) (hroot : root.isAbsolute = true)
    (hp : p ∈ plans) :
    ∃ last, lastFor plans p.destination = some last ∧
      after.read p.destination = .ok last.content := by
  obtain ⟨place, hpoints⟩ := h.pointsTo hp
  obtain ⟨last, hlast⟩ := exists_lastFor hp
  have hfile := h.get?_of_lastFor hroot (h.testPath_eq hp) hpoints hlast
  exact ⟨last, hlast, hpoints.read_eq hfile⟩

end CarriedOut

section

variable {s : Settings} {root : Path} {w w' : World LocalFiles} {i : Invocation}

/-- A forced generation that does not fail writes its test. -/
theorem Invocation.Exit.created_of_forced {source : Path} {outcome : Outcome}
    (h : Exit s w (.forced root source) w' i) (houtcome : i.outcome? = some outcome) :
    ∃ p, plan s w.store ⟨root, source⟩ = .ok p ∧
      w.store.write p.destination p.content = (w'.store, .ok ()) ∧
      outcome = .created p.summary := by
  cases h with
  | refused hdest => cases houtcome
  | collided hdest hheld => cases houtcome
  | declined hdest hfree hholds hanswer => cases hanswer
  | unwritten hdest hfree hmay hplan hwrite => cases houtcome
  | created hdest hfree hmay hplan hwrite =>
    exact ⟨_, hplan, hwrite, (Option.some.inj houtcome).symm⟩

/-- A forced batch without failures writes a test for each of its sources, and reports each as
created. -/
theorem carriedOut_generateAll {sources : List Path}
    (hok : ∀ i ∈ (generateAll s w (sources.map (.forced root))).2, i.outcome?.isSome = true) :
    ∃ plans, CarriedOut s root w.store sources plans
        (generateAll s w (sources.map (.forced root))).1.store ∧
      (generateAll s w (sources.map (.forced root))).2.filterMap Invocation.outcome? =
        plans.map fun p => .created p.summary := by
  induction sources generalizing w with
  | nil => exact ⟨[], .nil w.store, rfl⟩
  | cons source sources ih =>
    have hexit := Invocation.exit_generate s w (.forced root source)
    obtain ⟨outcome, houtcome⟩ := Option.isSome_iff_exists.mp (hok _ List.mem_cons_self)
    obtain ⟨p, hplan, hwrite, rfl⟩ := hexit.created_of_forced houtcome
    obtain ⟨plans, hcarried, houtcomes⟩ :=
      ih (w := (generate s w (.forced root source)).1) fun i hi => hok i (List.mem_cons_of_mem _ hi)
    refine ⟨p :: plans, .cons hplan hwrite hcarried, ?_⟩
    rw [List.map_cons, List.map_cons, ← houtcomes]
    exact List.filterMap_cons_some houtcome

end

end TestScaffold
