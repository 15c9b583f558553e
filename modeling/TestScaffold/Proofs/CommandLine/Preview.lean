import TestScaffold.Proofs.CommandLine.Forced
import TestScaffold.Proofs.CommandLine.Reports
import TestScaffold.Proofs.Generation.Single
import TestScaffold.Proofs.Generation.Tested

/-!
A dry run and the run that it announces. The dry run plans every test from the files as they are;
the real one plans each after the tests before it have been written. No test is a source, so the
plans are the same, and what was shown is what is found when every write has succeeded.
-/

namespace TestScaffold

/-- What a dry run prints of a plan. -/
def TestPlan.shown (p : TestPlan) : Text :=
  line ("// ".toList ++ p.destination.text) ++ line p.content

/-- The sources have these plans with the files as they are. -/
def Planned (s : Settings) (l : LocalFiles) (root : Path) : List Path → List TestPlan → Prop :=
  List.Forall₂ fun source p => plan s l ⟨root, source⟩ = .ok p

section

variable {s : Settings} {l l' : LocalFiles} {root source : Path} {sources : List Path}
  {plans : List TestPlan} {p : TestPlan}

/-- A dry run without a failure prints the plans of all sources. -/
theorem preview_eq {output : Text} (h : preview s l root sources = (output, none)) :
    ∃ plans, Planned s l root sources plans ∧ output = plans.flatMap TestPlan.shown := by
  induction sources generalizing output with
  | nil =>
    obtain ⟨rfl, -⟩ := Prod.mk.inj h
    exact ⟨[], .nil, rfl⟩
  | cons source sources ih =>
    unfold preview at h
    cases hplan : plan s l ⟨root, source⟩ with
    | error e =>
      rw [hplan] at h
      cases (Prod.mk.inj h).2
    | ok p =>
      rw [hplan] at h
      obtain ⟨hprinted, hfailure⟩ := Prod.mk.inj h
      obtain ⟨plans, hplans, hmore⟩ := ih (Prod.ext rfl hfailure)
      refine ⟨p :: plans, .cons hplan hplans, ?_⟩
      rw [List.flatMap_cons, ← hmore, ← hprinted]
      rfl

/-- Sources have the same plans after tests have been added. -/
theorem Planned.of_tested (h : Planned s l root sources plans) (htested : l.Tested l')
    (hsources : ∀ source ∈ sources, l.IsSourceFile source) :
    Planned s l' root sources plans := by
  induction h with
  | nil => exact .nil
  | cons hplan _ ih =>
    refine .cons ?_ (ih fun source hsource => hsources source (List.mem_cons_of_mem _ hsource))
    rw [htested.plan_eq s (hsources _ List.mem_cons_self)]
    exact hplan

/-- A forced batch carries out the plans that its sources have at first, as long as no write
fails. A single source needs no condition, because nothing is written before it is read. -/
theorem Planned.carriedOut (h : Planned s l root sources plans) (hroot : root.isAbsolute = true)
    (hsources : sources.length ≤ 1 ∨
      ∀ source ∈ sources, l.IsSourceFile source ∧ source.extension ≠ [])
    (hwritten : ∀ t ∈ turns s l (sources.map (.forced root)), ∀ d cause,
      t.result ≠ .error (.write d cause)) :
    (turns s l (sources.map (.forced root))).map Turn.result =
        plans.map (fun p => .ok (.created p.summary)) ∧
      CarriedOut s root l sources plans
        (generateAll s { store := l } (sources.map (.forced root))).1.store := by
  induction sources generalizing l plans with
  | nil =>
    cases h
    exact ⟨rfl, .nil l⟩
  | cons source sources ih =>
    obtain ⟨p, plans, hplan, hplans, rfl⟩ := List.forall₂_cons_left_iff.mp h
    rw [List.map_cons] at hwritten ⊢
    obtain ⟨result, hresult, -, hturns⟩ :=
      turns_cons s l (.forced root source) (sources.map (.forced root))
    obtain ⟨hstore, hcarried⟩ := generate_eq_carryOut s l (.forced root source)
    have hend := Option.some.inj (hresult.symm.trans hcarried)
    rw [Request.carryOut_forced hroot hplan] at hstore hend
    rw [hturns] at hwritten
    rcases hwrite : l.write p.destination p.content with ⟨written, cause | _⟩
    · rw [hwrite] at hend
      exact absurd hend (hwritten _ List.mem_cons_self p.destination cause)
    rw [hwrite] at hstore hend
    dsimp only at hstore hend
    subst hstore
    -- What is written for the first source is read for none of the others.
    let after := (generate s { store := l } (.forced root source)).1.store
    obtain ⟨hlater, hothers⟩ : Planned s after root sources plans ∧
        (sources.length ≤ 1 ∨
          ∀ source ∈ sources, after.IsSourceFile source ∧ source.extension ≠ []) := by
      rcases hsources with hone | hfiles
      · obtain rfl : sources = [] := List.length_eq_zero_iff.mp (by simpa using hone)
        cases hplans
        exact ⟨.nil, Or.inl (Nat.zero_le 1)⟩
      · have htested : l.Tested after :=
          tested_generate s l (hfiles source List.mem_cons_self).2
        have hrest := fun x hx => hfiles x (List.mem_cons_of_mem source hx)
        exact ⟨Planned.of_tested hplans htested fun x hx => (hrest x hx).1,
          Or.inr fun x hx => ⟨htested.isSourceFile (hrest x hx).1, (hrest x hx).2⟩⟩
    obtain ⟨hresults, hrest⟩ := ih hlater hothers fun t ht => hwritten t (List.mem_cons_of_mem _ ht)
    rw [hturns, generateAll_cons]
    refine ⟨?_, .cons hplan hwrite hrest⟩
    rw [List.map_cons, List.map_cons, hresults, hend]

end

namespace LocalFiles

variable {l : LocalFiles} {env : Environment} {o : TestOptions} {x : Selection}
  {flags : List Flag}

/-- With JSON asked for, what is printed are the outcomes of the turns. -/
theorem output_createSelected_of_json (l : LocalFiles) (x : Selection) (hjson : .json ∈ flags) :
    (l.createSelected x flags).output =
      line (Json.pretty 0 (.list (((turns x.settings l
        (x.requests (flags.contains .force))).filterMap (·.result.toOption)).map
          Outcome.json))) := by
  have houtput : (l.createSelected x flags).output =
      printBatch (.ofBatch x.sources.length (flags.contains .json)) (flags.contains .json)
        (generateAll x.settings { store := l } (x.requests (flags.contains .force))).2 := rfl
  rw [houtput, List.contains_iff_mem.mpr hjson, printBatch_json, outcomes_generateAll]

/-- Of the selected sources, all are files that are no tests, or there is one alone. -/
theorem sources_of_select (hl : l.WellFormed) (hnamed : l.disk.Named)
    (hselect : l.select env o = .ok x) (hextensions : [] ∉ x.settings.scan.sourceExtensions) :
    x.sources.length ≤ 1 ∨
      ∀ source ∈ x.sources, l.IsSourceFile source ∧ source.extension ≠ [] := by
  obtain ⟨-, -, hsources⟩ := select_eq_ok_iff.mp hselect
  split at hsources
  · refine Or.inr fun source hsource => ?_
    obtain ⟨hkept, hfile⟩ := isSource_of_mem_collectSources hl hnamed hsources hsource
    exact ⟨hfile, extension_ne_nil_of_isSource hextensions hkept⟩
  · rw [hsources]
    exact Or.inl (Nat.le_refl 1)

/-- A command succeeds when none of its turns fails. -/
theorem code_createTests (hselect : l.select env o = .ok x) (hdry : .dryRun ∉ o.flags) :
    (l.createTests env o).code =
      if (turns x.settings l (x.requests (o.flags.contains .force))).any Turn.failed then 1
      else 0 := by
  by_cases hsources : x.sources = []
  · have hrequests : x.requests (o.flags.contains .force) = [] := by
      unfold Selection.requests
      rw [hsources]
      rfl
    rw [createTests_of_nothing hselect hsources, hrequests]
    rfl
  · have hfailure := failure_createSelected l x o.flags
    rw [createTests_of_select hselect hsources hdry]
    unfold Finished.code
    rw [hfailure]
    dsimp only
    by_cases hany : (turns x.settings l (x.requests (o.flags.contains .force))).any
        Turn.failed = true
    · rw [if_pos hany, if_neg]
      obtain ⟨t, ht, hfailed⟩ := List.any_eq_true.mp hany
      exact (List.countP_pos_iff.mpr ⟨t, ht, hfailed⟩).ne'
    · rw [if_neg hany, if_pos]
      rw [List.countP_eq_zero]
      intro t ht hfailed
      exact hany (List.any_eq_true.mpr ⟨t, ht, hfailed⟩)

/-- A dry run that does not fail has a plan for every source, and prints these plans. -/
theorem planned_of_dryRun (hdry : .dryRun ∈ o.flags) (hdone : (l.createTests env o).failure = none) :
    ∃ x plans, l.select env o = .ok x ∧ Planned x.settings l x.root x.sources plans ∧
      (l.createTests env o).output =
        if x.sources = [] then line ("No component files found under ".toList ++ o.path.text)
        else plans.flatMap TestPlan.shown := by
  unfold createTests at hdone ⊢
  cases hselect : l.select env o with
  | error failure =>
    rw [hselect] at hdone
    cases hdone
  | ok x =>
    rw [hselect] at hdone
    dsimp only at hdone ⊢
    by_cases hsources : x.sources = []
    · refine ⟨x, [], rfl, ?_, ?_⟩
      · rw [hsources]
        exact .nil
      · rw [if_pos hsources, if_pos hsources]
    · rw [if_neg hsources, if_pos hdry] at hdone ⊢
      obtain ⟨plans, hplans, houtput⟩ := preview_eq (Prod.ext rfl hdone)
      refine ⟨x, plans, rfl, hplans, ?_⟩
      rw [if_neg hsources]
      exact houtput

end LocalFiles

theorem Finished.failure_eq_none {f : Finished} (h : f.code = 0) : f.failure = none := by
  unfold Finished.code at h
  split at h
  · assumption
  · cases h
  · cases h

section Created

variable {batch : List Turn} {plans : List TestPlan}

theorem any_failed_of_created
    (h : batch.map Turn.result = plans.map fun p => .ok (.created p.summary)) :
    batch.any Turn.failed = false := by
  rw [List.any_eq_false]
  intro t ht hfailed
  obtain ⟨p, -, hp⟩ := List.mem_map.mp (h ▸ List.mem_map_of_mem ht)
  unfold Turn.failed at hfailed
  rw [← hp] at hfailed
  cases hfailed

theorem outcomes_of_created
    (h : batch.map Turn.result = plans.map fun p => .ok (.created p.summary)) :
    batch.filterMap (·.result.toOption) = plans.map fun p => .created p.summary := by
  have hmapped := congrArg (List.filterMap Except.toOption) h
  rw [List.filterMap_map, List.filterMap_map] at hmapped
  exact hmapped.trans (congrFun List.filterMap_eq_map plans)

end Created

/-- A dry run changes nothing. When it succeeds, it has printed a plan for each source, and the
same command with force, if none of its writes fails, creates the tests of these plans in their
order; under each destination the text is found that was printed for it last. -/
theorem run_dry (l : LocalFiles) (env : Environment) (arguments : List Text) (o : TestOptions)
    (hread : Command.read arguments = .ok (.createTests o)) (hdry : .dryRun ∈ o.flags)
    (hl : l.WellFormed) (hnamed : l.disk.Named)
    (hextensions : ∀ x, l.select env o = .ok x → [] ∉ x.settings.scan.sourceExtensions) :
    let shown := l.run env arguments
    shown.files = l ∧
      (shown.code = 0 → ∃ x plans, l.select env o = .ok x ∧
        Planned x.settings l x.root x.sources plans ∧
        shown.output =
          (if x.sources = [] then line ("No component files found under ".toList ++ o.path.text)
          else plans.flatMap TestPlan.shown) ∧
        ∀ arguments' o', Command.read arguments' = .ok (.createTests o') → o'.path = o.path →
          o'.root = o.root → .force ∈ o'.flags → .dryRun ∉ o'.flags →
          let real := l.run env arguments'
          let batch := turns x.settings l (x.requests true)
          (∀ t ∈ batch, ∀ d cause, t.result ≠ .error (.write d cause)) →
            real.code = 0 ∧
            batch.map Turn.result = plans.map (fun p => .ok (.created p.summary)) ∧
            (.json ∈ o'.flags → x.sources ≠ [] → real.output =
              line (Json.pretty 0 (.list (plans.map fun p => (Outcome.created p.summary).json)))) ∧
            ∀ p ∈ plans, ∃ last, lastFor plans p.destination = some last ∧
              real.files.read p.destination = .ok last.content) := by
  intro shown
  have hshown : shown = l.createTests env o := LocalFiles.run_of_read hread
  refine ⟨?_, ?_⟩
  · rw [hshown, LocalFiles.files_createTests]
    cases l.select env o with
    | error failure => rfl
    | ok x => exact if_pos hdry
  intro hcode
  have hdone : (l.createTests env o).failure = none := by
    rw [← hshown]
    exact Finished.failure_eq_none hcode
  obtain ⟨x, plans, hselect, hplans, houtput⟩ := LocalFiles.planned_of_dryRun hdry hdone
  rw [hshown]
  refine ⟨x, plans, hselect, hplans, houtput, ?_⟩
  intro arguments' o' hread' hpath hroot' hforce hdry' real batch hwritten
  have hroot := LocalFiles.isAbsolute_root_of_select hselect
  obtain ⟨hresults, hcarried⟩ := hplans.carriedOut hroot
    (LocalFiles.sources_of_select hl hnamed hselect (hextensions x hselect)) hwritten
  have hreal : real = l.createTests env o' := LocalFiles.run_of_read hread'
  have hselect' := (LocalFiles.select_congr hpath hroot').trans hselect
  have hforced : o'.flags.contains .force = true := List.contains_iff_mem.mpr hforce
  have hfiles : real.files = (generateAll x.settings { store := l } (x.requests true)).1.store := by
    rw [hreal, LocalFiles.files_createTests, hselect', hforced]
    exact if_neg hdry'
  refine ⟨?_, hresults, ?_, ?_⟩
  · rw [hreal, LocalFiles.code_createTests hselect' hdry', hforced]
    exact if_neg (Bool.eq_false_iff.mp (any_failed_of_created hresults))
  · intro hjson hsources
    have houtcomes : batch.filterMap (·.result.toOption) =
        plans.map fun p => .created p.summary := outcomes_of_created hresults
    rw [hreal, LocalFiles.createTests_of_select hselect' hsources hdry',
      LocalFiles.output_createSelected_of_json l x hjson, hforced, houtcomes, List.map_map]
    rfl
  · intro p hp
    rw [hfiles]
    exact hcarried.read_eq hroot hp

def showAll : List Text :=
  ["create-test-file".toList, "/p".toList, "--root".toList, "/p".toList, "--dry-run".toList]

def shownOptions : TestOptions where
  path := ⟨"/p".toList⟩
  root := some ⟨"/p".toList⟩
  flags := [.dryRun]

/-- The two tests that are shown for one file are both created there, the second over the first. -/
theorem run_dry_twoCards :
    Command.read showAll = .ok (.createTests shownOptions) ∧
      twoCards.WellFormed ∧ twoCards.disk.Named ∧
      (twoCards.run plainly showAll).code = 0 ∧
      ∃ first second, Planned {} twoCards ⟨"/p".toList⟩ cardSources [first, second] ∧
        (twoCards.run plainly showAll).output = first.shown ++ second.shown ∧
        first.destination.components = second.destination.components ∧
        (twoCards.run plainly createAll).files.read first.destination = .ok second.content := by
  have hread : Command.read showAll = .ok (.createTests shownOptions) := by decide +kernel
  have hwell : twoCards.WellFormed := ⟨Disk.isTree_of_entries (by decide) (by decide), rfl⟩
  have hnamed : twoCards.disk.Named := by decide +kernel
  have hselect : twoCards.select plainly shownOptions =
      .ok ⟨⟨"/p".toList⟩, {}, cardSources⟩ := select_twoCards
  have hextensions : ∀ x, twoCards.select plainly shownOptions = .ok x →
      [] ∉ x.settings.scan.sourceExtensions := by
    intro x hx
    obtain rfl := Except.ok.inj (hselect.symm.trans hx)
    decide
  obtain ⟨-, hshown⟩ := run_dry twoCards plainly showAll shownOptions hread (by decide) hwell
    hnamed hextensions
  have hcode : (twoCards.run plainly showAll).code = 0 := by
    rw [LocalFiles.run_of_read hread]
    unfold LocalFiles.createTests
    rw [hselect]
    decide +kernel
  obtain ⟨x, plans, hx, hplans, houtput, hreal⟩ := hshown hcode
  obtain rfl := Except.ok.inj (hselect.symm.trans hx)
  obtain ⟨first, rest, hfirst, hrest, rfl⟩ := List.forall₂_cons_left_iff.mp hplans
  obtain ⟨second, rest, hsecond, hnone, rfl⟩ := List.forall₂_cons_left_iff.mp hrest
  obtain rfl := List.forall₂_nil_left_iff.mp hnone
  have hshared : first.destination.components = second.destination.components := by
    have hpaths : (Location.testPath ⟨⟨"/p".toList⟩, ⟨"/p/Card.tsx".toList⟩⟩ {}).map
          Path.components =
        (Location.testPath ⟨⟨"/p".toList⟩, ⟨"/p/src/Card.tsx".toList⟩⟩ {}).map
          Path.components := by
      decide +kernel
    rw [show Location.testPath ⟨⟨"/p".toList⟩, ⟨"/p/Card.tsx".toList⟩⟩ {} = _ from
        (testPath_of_plan hfirst).2,
      show Location.testPath ⟨⟨"/p".toList⟩, ⟨"/p/src/Card.tsx".toList⟩⟩ {} = _ from
        (testPath_of_plan hsecond).2] at hpaths
    exact Except.ok.inj hpaths
  have hdone : (turns {} twoCards (Selection.requests ⟨⟨"/p".toList⟩, {}, cardSources⟩ true)).all
      (!·.failed) = true := by
    decide +kernel
  obtain ⟨-, -, -, hfound⟩ := hreal createAll allOptions (by decide +kernel) rfl rfl (by decide)
    (by decide) (by
      intro t ht d cause hfailed
      have hok := List.all_eq_true.mp hdone t ht
      unfold Turn.failed at hok
      rw [hfailed] at hok
      cases hok)
  have hsources : cardSources ≠ [] := List.cons_ne_nil _ _
  rw [if_neg hsources, List.flatMap_cons, List.flatMap_singleton] at houtput
  obtain ⟨last, hlast, hlastRead⟩ := hfound first List.mem_cons_self
  have hsecondLast : lastFor [first, second] first.destination = some second := by
    rw [lastFor_cons, lastFor_cons, if_pos hshared.symm]
    rfl
  obtain rfl := Option.some.inj (hsecondLast.symm.trans hlast)
  exact ⟨hread, hwell, hnamed, hcode, first, second, hplans, houtput, hshared, hlastRead⟩

end TestScaffold
