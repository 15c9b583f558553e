import TestScaffold.Proofs.CommandLine.Selection
import TestScaffold.Proofs.CommandLine.Unforced
import TestScaffold.Proofs.Generation.CarriedOut

/-!
What a forced command leaves of the tests that it has created. Every source has a test of its own
as long as no two sources belong in one place below the directory of the tests. Where two do, both
are reported as created, and only the text for the later of them is found.
-/

namespace TestScaffold

namespace LocalFiles

variable {l : LocalFiles} {env : Environment} {o : TestOptions} {x : Selection}

/-- A batch without failures has an outcome for each of its tests. -/
theorem isSome_outcome?_of_createSelected {flags : List Flag}
    (h : (l.createSelected x flags).failure = none) :
    ∀ i ∈ (generateAll x.settings { store := l } (x.requests (flags.contains .force))).2,
      i.outcome?.isSome = true := by
  unfold createSelected at h
  dsimp only at h
  split at h
  · rename_i hnone
    have hle := List.length_filterMap_le Invocation.outcome?
      (generateAll x.settings { store := l } (x.requests (flags.contains .force))).2
    apply List.filterMap_length_eq_length.mp
    exact Nat.le_antisymm hle (Nat.le_of_sub_eq_zero hnone)
  · cases h

/-- With JSON asked for, the outcomes are all that is printed. -/
theorem printBatch_json {size : Nat} (batch : List Invocation) :
    printBatch (.ofBatch size true) true batch =
      line (Json.pretty 0 (.list ((batch.filterMap Invocation.outcome?).map Outcome.json))) := by
  have hsilent : ∀ notes : List Note,
      notes.filterMap (Display.ofBatch size true).printed? = [] := by
    intro notes
    rw [List.filterMap_eq_nil_iff]
    intro note _
    cases hlevel : note.level <;> rfl
  unfold printBatch
  rw [hsilent, if_pos rfl]
  rfl

theorem carriedOut_createTests (hselect : l.select env o = .ok x) (hforce : .force ∈ o.flags)
    (hjson : .json ∈ o.flags) (hdry : .dryRun ∉ o.flags)
    (hdone : (l.createTests env o).failure = none) :
    ∃ plans, CarriedOut x.settings x.root l x.sources plans (l.createTests env o).files ∧
      (x.sources ≠ [] → (l.createTests env o).output =
        line (Json.pretty 0 (.list (plans.map fun p => (Outcome.created p.summary).json)))) := by
  by_cases hsources : x.sources = []
  · refine ⟨[], ?_, fun hne => absurd hsources hne⟩
    rw [createTests_of_nothing hselect hsources, hsources]
    exact .nil l
  · have hrequests : x.requests (o.flags.contains .force) = x.sources.map (.forced x.root) := by
      rw [List.contains_iff_mem.mpr hforce]
      rfl
    rw [createTests_of_select hselect hsources hdry] at hdone ⊢
    have hok := isSome_outcome?_of_createSelected hdone
    rw [hrequests] at hok
    obtain ⟨plans, hcarried, houtcomes⟩ := carriedOut_generateAll hok
    refine ⟨plans, ?_, fun _ => ?_⟩
    · rw [files_createSelected, hrequests]
      exact hcarried
    · have houtput : (l.createSelected x o.flags).output =
          printBatch (.ofBatch x.sources.length (o.flags.contains .json)) (o.flags.contains .json)
            (generateAll x.settings { store := l } (x.requests (o.flags.contains .force))).2 := rfl
      rw [houtput, List.contains_iff_mem.mpr hjson, printBatch_json, hrequests, houtcomes,
        List.map_map]
      rfl

end LocalFiles

/-- A forced command that has created all its tests and reports them as JSON. There is one test
for each source, planned and written in their order. The destinations are different exactly when
no two sources belong in one place, and then each file holds the test of its own source. Where
some belong in one place, the file there holds the test of the last of them, and yet all are
reported as created. -/
theorem run_forced (l : LocalFiles) (env : Environment) (arguments : List Text) (o : TestOptions)
    (hread : Command.read arguments = .ok (.createTests o)) (hforce : .force ∈ o.flags)
    (hjson : .json ∈ o.flags) (hdry : .dryRun ∉ o.flags)
    (hdone : (l.run env arguments).failure = none) :
    ∃ x plans, l.select env o = .ok x ∧
      CarriedOut x.settings x.root l x.sources plans (l.run env arguments).files ∧
      plans.map TestPlan.source = x.sources ∧
      (x.sources ≠ [] → (l.run env arguments).output =
        line (Json.pretty 0 (.list (plans.map fun p => (Outcome.created p.summary).json)))) ∧
      ((plans.map (·.destination.components)).Nodup ↔
        (x.sources.map fun source => Location.mirrored ⟨x.root, source⟩ x.settings.paths).Nodup) ∧
      (∀ p ∈ plans, ∃ last, lastFor plans p.destination = some last ∧
        (l.run env arguments).files.read p.destination = .ok last.content) ∧
      ((x.sources.map fun source => Location.mirrored ⟨x.root, source⟩ x.settings.paths).Nodup →
        ∀ p ∈ plans, (l.run env arguments).files.read p.destination = .ok p.content) := by
  rw [LocalFiles.run_of_read hread] at hdone ⊢
  cases hselect : l.select env o with
  | error failure =>
    unfold LocalFiles.createTests at hdone
    rw [hselect] at hdone
    cases hdone
  | ok x =>
    have hroot := LocalFiles.isAbsolute_root_of_select hselect
    obtain ⟨plans, hcarried, houtput⟩ :=
      LocalFiles.carriedOut_createTests hselect hforce hjson hdry hdone
    have hsources := hcarried.sources_eq
    have hdistinct := hcarried.nodup_iff hroot
    rw [hsources] at hdistinct
    refine ⟨x, plans, rfl, hcarried, hsources, houtput, hdistinct, ?_, ?_⟩
    · intro p hp
      exact hcarried.read_eq hroot hp
    · intro hnodup p hp
      obtain ⟨last, hlast, hread⟩ := hcarried.read_eq hroot hp
      rw [eq_of_lastFor (hdistinct.mpr hnodup) hp hlast] at hread
      exact hread

/-- A workspace with two sources of one name, one of them in the directory of the sources and one
beside it. -/
def twoCards : LocalFiles where
  disk := ⟨[
    (["p".toList], .directory),
    (["p".toList, "package.json".toList], .file (.text "\x7b\x7d".toList)),
    (["p".toList, "Card.tsx".toList],
      .file (.text "export function Card() \x7b\x7d\n".toList)),
    (["p".toList, "src".toList], .directory),
    (["p".toList, "src".toList, "Card.tsx".toList],
      .file (.text "export default function Card() \x7b\x7d\n".toList))]⟩

def createAll : List Text :=
  ["create-test-file".toList, "/p".toList, "--root".toList, "/p".toList, "--force".toList,
    "--json".toList]

def allOptions : TestOptions where
  path := ⟨"/p".toList⟩
  root := some ⟨"/p".toList⟩
  flags := [.json, .force]

def cardSources : List Path :=
  [⟨"/p/Card.tsx".toList⟩, ⟨"/p/src/Card.tsx".toList⟩]

theorem select_twoCards :
    twoCards.select plainly allOptions = .ok ⟨⟨"/p".toList⟩, {}, cardSources⟩ := by
  have hpath : Path.absolute twoCards.currentDirectory ⟨"/p".toList⟩ = ⟨"/p".toList⟩ := by
    decide +kernel
  have hfind : twoCards.find ⟨"/p".toList⟩ = .ok (["p".toList], .directory) := by decide +kernel
  have hsorted : cardSources.Pairwise fun a b => (Path.order a b).isLE = true := by decide +kernel
  exact LocalFiles.select_of_directory rfl hpath hpath (by decide +kernel) hfind
    (by decide +kernel) hsorted

/-- Both tests go to one file, which holds the second. -/
theorem run_forced_twoCards :
    Command.read createAll = .ok (.createTests allOptions) ∧
      (twoCards.run plainly createAll).failure = none ∧
      ∃ plans, CarriedOut {} ⟨"/p".toList⟩ twoCards cardSources plans
          (twoCards.run plainly createAll).files ∧
        plans.map TestPlan.source = cardSources ∧
        ¬ (plans.map (·.destination.components)).Nodup := by
  have hread : Command.read createAll = .ok (.createTests allOptions) := by decide +kernel
  have hdone : (twoCards.run plainly createAll).failure = none := by
    rw [LocalFiles.run_of_read hread,
      LocalFiles.createTests_of_select select_twoCards (by decide) (by decide)]
    decide +kernel
  obtain ⟨x, plans, hx, hcarried, hsources, -, hdistinct, -, -⟩ :=
    run_forced twoCards plainly createAll allOptions hread (by decide) (by decide) (by decide) hdone
  obtain rfl := Except.ok.inj (select_twoCards.symm.trans hx)
  refine ⟨hread, hdone, plans, hcarried, hsources, ?_⟩
  rw [hdistinct]
  decide +kernel

end TestScaffold
