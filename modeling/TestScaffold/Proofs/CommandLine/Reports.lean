import TestScaffold.Proofs.CommandLine.Selection
import TestScaffold.Proofs.CommandLine.Unforced

/-!
What a command tells of the tests that went wrong. For a single source, or with JSON asked for, it
tells of every source that could not be read and of every failure, in the order of the sources.
Behind a progress bar all of that is lost, and only the number of the failures remains.
-/

namespace TestScaffold

/-- One generation of a batch: the files that it starts from, its request and what it comes to. -/
structure Turn where
  before : LocalFiles
  request : Request
  result : GenerationResult

namespace Turn

/-- Whether the generation comes to read its source: it is neither refused nor skipped first. -/
def triesSource (t : Turn) : Bool :=
  match t.result with
  | .ok (.created _) | .error (.write _ _) => true
  | _ => false

def failed (t : Turn) : Bool :=
  t.result.toOption.isNone

def warnings (t : Turn) : List Text :=
  let source := t.request.location.source
  if t.triesSource ∧ (t.before.read source).toOption = none then
    ["warning: ".toList ++ ("Could not read ".toList ++ source.text ++
      ", generating a test without mocks".toList)]
  else []

def errors (t : Turn) : List Text :=
  match t.result with
  | .error e => ["error: ".toList ++
      if e.isInputError then e.message else "Error creating test file: ".toList ++ e.message]
  | .ok _ => []

/-- The lines that a generation calls for. -/
def troubles (t : Turn) : List Text :=
  t.warnings ++ t.errors

end Turn

def turns (s : Settings) : LocalFiles → List Request → List Turn
  | _, [] => []
  | l, r :: requests =>
    let (w, i) := generate s { store := l } r
    i.result?.toList.map (⟨l, r, ·⟩) ++ turns s w.store requests

/-- Behind a progress bar nothing is told; otherwise every warning and every error is. -/
theorem Display.told?_ofBatch (size : Nat) (json : Bool) (n : Note) :
    (Display.ofBatch size json).told? n =
      if 1 < size ∧ json = false then none else Display.told? .troubles n := by
  unfold ofBatch
  cases json with
  | true => simp
  | false =>
    by_cases hsize : 1 < size
    · simp [hsize, told?]
    · cases hlevel : n.level <;> simp [hsize, told?, hlevel]

theorem Display.printed?_ofBatch {size : Nat} (hsize : 1 < size) (n : Note) :
    (Display.ofBatch size false).printed? n = none := by
  unfold ofBatch
  rw [if_neg Bool.false_ne_true, if_pos hsize]
  rfl

section

variable {s : Settings} {l : LocalFiles} {r : Request}

namespace Turn

theorem warnings_of_not_triesSource {t : Turn} (h : t.triesSource = false) : t.warnings = [] := by
  unfold warnings
  dsimp only
  rw [if_neg]
  rintro ⟨htries, -⟩
  rw [h] at htries
  cases htries

/-- A source that is tried is warned of when it cannot be read. -/
theorem warnings_of_triesSource {t : Turn} (h : t.triesSource = true) :
    t.warnings = (t.request.warnings t.before).filterMap (Display.told? .troubles) := by
  have hread : FileStore.read t.before t.request.location.source =
      t.before.read t.request.location.source := rfl
  unfold warnings Request.warnings
  rw [hread]
  dsimp only
  cases htext : (t.before.read t.request.location.source).toOption with
  | none =>
    rw [if_pos ⟨h, rfl⟩]
    rfl
  | some text =>
    rw [if_neg fun hboth => Option.some_ne_none _ hboth.2]
    rfl

/-- What is told of a result is what the generation calls for. -/
theorem told_report (t : Turn) :
    (t.request.report t.before t.result).filterMap (Display.told? .troubles) = t.troubles := by
  obtain ⟨before, request, result⟩ := t
  unfold troubles
  cases result with
  | ok outcome =>
    cases outcome with
    | skipped d =>
      rw [warnings_of_not_triesSource rfl]
      rfl
    | created test =>
      rw [warnings_of_triesSource rfl]
      exact List.filterMap_append
  | error e =>
    cases e with
    | write d cause =>
      rw [warnings_of_triesSource rfl]
      exact List.filterMap_append
    | _ =>
      rw [warnings_of_not_triesSource rfl]
      rfl

end Turn

/-- A batch takes its turns: the first one with the files as they are, the others with what it
leaves of them. -/
theorem turns_cons (s : Settings) (l : LocalFiles) (r : Request) (requests : List Request) :
    ∃ result, (generate s { store := l } r).2.result? = some result ∧
      (generate s { store := l } r).2.notes = r.report l result ∧
      turns s l (r :: requests) =
        ⟨l, r, result⟩ :: turns s (generate s { store := l } r).1.store requests := by
  obtain ⟨result, hresult, hnotes⟩ := (Invocation.exit_generate s { store := l } r).report
  refine ⟨result, hresult, hnotes, ?_⟩
  rw [turns]
  dsimp only
  rw [hresult]
  rfl

theorem generateAll_cons_snd (s : Settings) (l : LocalFiles) (r : Request)
    (requests : List Request) :
    (generateAll s { store := l } (r :: requests)).2 =
      (generate s { store := l } r).2 ::
        (generateAll s { store := (generate s { store := l } r).1.store } requests).2 := by
  have hclaims : (generate s { store := l } r).1.inFlight = .empty :=
    (Invocation.exit_generate s { store := l } r).inFlight
  rw [generateAll]
  generalize generate s { store := l } r = turn at hclaims ⊢
  obtain ⟨⟨store, inFlight⟩, i⟩ := turn
  obtain rfl : inFlight = .empty := hclaims
  rfl

/-- Every request has its turn, in their order. -/
theorem request_turns (s : Settings) (l : LocalFiles) (requests : List Request) :
    (turns s l requests).map Turn.request = requests := by
  induction requests generalizing l with
  | nil => rfl
  | cons r requests ih =>
    obtain ⟨result, -, -, hturns⟩ := turns_cons s l r requests
    rw [hturns, List.map_cons, ih]

/-- What a batch tells is what its turns call for, one after the other. -/
theorem told_generateAll (s : Settings) (l : LocalFiles) (requests : List Request) :
    ((generateAll s { store := l } requests).2.flatMap Invocation.notes).filterMap
        (Display.told? .troubles) = (turns s l requests).flatMap Turn.troubles := by
  induction requests generalizing l with
  | nil => rfl
  | cons r requests ih =>
    obtain ⟨result, -, hnotes, hturns⟩ := turns_cons s l r requests
    have htold := Turn.told_report ⟨l, r, result⟩
    rw [generateAll_cons_snd, hturns, List.flatMap_cons, List.flatMap_cons, List.filterMap_append,
      ih, hnotes, htold]

/-- The outcomes of a batch are those of the turns that do not fail, in their order. -/
theorem outcomes_generateAll (s : Settings) (l : LocalFiles) (requests : List Request) :
    (generateAll s { store := l } requests).2.filterMap Invocation.outcome? =
      (turns s l requests).filterMap (·.result.toOption) := by
  induction requests generalizing l with
  | nil => rfl
  | cons r requests ih =>
    obtain ⟨result, hresult, -, hturns⟩ := turns_cons s l r requests
    have houtcome : (generate s { store := l } r).2.outcome? = result.toOption := by
      unfold Invocation.outcome?
      rw [hresult]
      rfl
    rw [generateAll_cons_snd, hturns, List.filterMap_cons, List.filterMap_cons, houtcome, ih]

theorem length_outcomes_generateAll (s : Settings) (l : LocalFiles) (requests : List Request) :
    ((generateAll s { store := l } requests).2.filterMap Invocation.outcome?).length +
      (turns s l requests).countP Turn.failed = requests.length := by
  have hlength := congrArg List.length (request_turns s l requests)
  rw [List.length_map] at hlength
  rw [outcomes_generateAll, List.length_filterMap_eq_countP, ← hlength,
    List.length_eq_countP_add_countP fun t : Turn => t.result.toOption.isSome]
  congr 2
  funext t
  unfold Turn.failed
  cases t.result.toOption <;> rfl

end

namespace LocalFiles

variable {l : LocalFiles} {x : Selection} {flags : List Flag}

theorem notes_createSelected (l : LocalFiles) (x : Selection) (flags : List Flag) :
    (l.createSelected x flags).notes =
      if 1 < x.sources.length ∧ .json ∉ flags then []
      else (turns x.settings l (x.requests (flags.contains .force))).flatMap Turn.troubles := by
  have hnotes : (l.createSelected x flags).notes =
      ((generateAll x.settings { store := l }
        (x.requests (flags.contains .force))).2.flatMap Invocation.notes).filterMap
          (Display.ofBatch x.sources.length (flags.contains .json)).told? := rfl
  have hjson : flags.contains .json = false ↔ .json ∉ flags := by
    rw [← Bool.not_eq_true, List.contains_iff_mem]
  rw [hnotes]
  by_cases hhidden : 1 < x.sources.length ∧ .json ∉ flags
  · rw [if_pos hhidden, List.filterMap_eq_nil_iff]
    intro n _
    rw [Display.told?_ofBatch, if_pos ⟨hhidden.1, hjson.mpr hhidden.2⟩]
  · have htold : (Display.ofBatch x.sources.length (flags.contains .json)).told? =
        Display.told? .troubles := by
      funext n
      rw [Display.told?_ofBatch, if_neg]
      rintro ⟨hmany, hoff⟩
      exact hhidden ⟨hmany, hjson.mp hoff⟩
    rw [if_neg hhidden, htold]
    exact told_generateAll x.settings l _

/-- A command fails for its batch with the number of the turns that fail. -/
theorem failure_createSelected (l : LocalFiles) (x : Selection) (flags : List Flag) :
    (l.createSelected x flags).failure =
      let failures := (turns x.settings l (x.requests (flags.contains .force))).countP Turn.failed
      if failures = 0 then none else some (.incomplete failures x.sources.length) := by
  have hfailure : (l.createSelected x flags).failure =
      let batch := (generateAll x.settings { store := l } (x.requests (flags.contains .force))).2
      let failed := batch.length - (batch.filterMap Invocation.outcome?).length
      if failed = 0 then none else some (.incomplete failed batch.length) := rfl
  have hlength := length_generateAll x.settings { store := l } (x.requests (flags.contains .force))
  have hrequests : (x.requests (flags.contains .force)).length = x.sources.length :=
    List.length_map _
  have houtcomes := length_outcomes_generateAll x.settings l (x.requests (flags.contains .force))
  have hfailed : x.sources.length - ((generateAll x.settings { store := l }
      (x.requests (flags.contains .force))).2.filterMap Invocation.outcome?).length =
        (turns x.settings l (x.requests (flags.contains .force))).countP Turn.failed := by
    omega
  rw [hfailure]
  dsimp only
  rw [hlength, hrequests, hfailed]

theorem output_createSelected_of_many (hmany : 1 < x.sources.length) (hjson : .json ∉ flags) :
    (l.createSelected x flags).output = [] := by
  have hoff : flags.contains .json = false := by
    rw [← Bool.not_eq_true, List.contains_iff_mem]
    exact hjson
  have houtput : (l.createSelected x flags).output =
      printBatch (.ofBatch x.sources.length (flags.contains .json)) (flags.contains .json)
        (generateAll x.settings { store := l } (x.requests (flags.contains .force))).2 := rfl
  rw [houtput, hoff]
  unfold printBatch
  rw [if_neg Bool.false_ne_true, List.append_nil, List.filterMap_eq_nil_iff.mpr]
  · rfl
  · exact fun n _ => Display.printed?_ofBatch hmany n

end LocalFiles

/-- A command that comes to create tests takes one turn for each of its sources. For a single
source, or with JSON asked for, it tells of exactly what the turns call for: a warning for each
source that was tried and could not be read, and an error for each failure, in the order of the
sources. For several sources without JSON it tells of none of this and prints nothing, and what it
fails with says how many of them have failed, but not which and not why. -/
theorem run_troubles (l : LocalFiles) (env : Environment) (arguments : List Text) (o : TestOptions)
    (x : Selection) (hread : Command.read arguments = .ok (.createTests o))
    (hselect : l.select env o = .ok x) (hsources : x.sources ≠ []) (hdry : .dryRun ∉ o.flags) :
    let batch := turns x.settings l (x.requests (o.flags.contains .force))
    let finished := l.run env arguments
    batch.map (·.request.location) = x.sources.map (⟨x.root, ·⟩) ∧
      (x.sources.length = 1 ∨ .json ∈ o.flags → finished.notes = batch.flatMap Turn.troubles) ∧
      (1 < x.sources.length → .json ∉ o.flags → finished.notes = [] ∧ finished.output = []) ∧
      finished.failure =
        if batch.countP Turn.failed = 0 then none
        else some (.incomplete (batch.countP Turn.failed) x.sources.length) := by
  intro batch finished
  have hfinished : finished = l.createSelected x o.flags :=
    (LocalFiles.run_of_read hread).trans (LocalFiles.createTests_of_select hselect hsources hdry)
  rw [hfinished]
  refine ⟨?_, ?_, ?_, LocalFiles.failure_createSelected l x o.flags⟩
  · have hrequests := request_turns x.settings l (x.requests (o.flags.contains .force))
    have hlocations := congrArg (List.map Request.location) hrequests
    rw [List.map_map] at hlocations
    rw [show batch.map (·.request.location) = _ from hlocations]
    exact List.map_map
  · intro hshown
    rw [LocalFiles.notes_createSelected, if_neg]
    rintro ⟨hmany, hjson⟩
    rcases hshown with hone | hjson'
    · omega
    · exact hjson hjson'
  · intro hmany hjson
    refine ⟨?_, LocalFiles.output_createSelected_of_many hmany hjson⟩
    rw [LocalFiles.notes_createSelected, if_pos ⟨hmany, hjson⟩]

/-- A workspace with two sources, and with a file in the place of the directory of the tests. -/
def blockedTests : LocalFiles where
  disk := ⟨[
    (["p".toList], .directory),
    (["p".toList, "package.json".toList], .file (.text "\x7b\x7d".toList)),
    (["p".toList, "src".toList], .directory),
    (["p".toList, "src".toList, "A.tsx".toList],
      .file (.text "export default function A() \x7b\x7d\n".toList)),
    (["p".toList, "src".toList, "B.tsx".toList],
      .file (.text "export default function B() \x7b\x7d\n".toList)),
    (["p".toList, "tests".toList], .file (.text "x".toList))]⟩

def createInSrc : List Text :=
  ["create-test-file".toList, "/p/src".toList, "--root".toList, "/p".toList]

def srcOptions : TestOptions where
  path := ⟨"/p/src".toList⟩
  root := some ⟨"/p".toList⟩

def srcSelection : Selection where
  root := ⟨"/p".toList⟩
  settings := {}
  sources := [⟨"/p/src/A.tsx".toList⟩, ⟨"/p/src/B.tsx".toList⟩]

theorem select_blockedTests : blockedTests.select plainly srcOptions = .ok srcSelection := by
  have hpath : Path.absolute blockedTests.currentDirectory ⟨"/p/src".toList⟩ =
      ⟨"/p/src".toList⟩ := by
    decide +kernel
  have hroot : Path.absolute blockedTests.currentDirectory ⟨"/p".toList⟩ = ⟨"/p".toList⟩ := by
    decide +kernel
  have hfind : blockedTests.find ⟨"/p/src".toList⟩ =
      .ok (["p".toList, "src".toList], .directory) := by
    decide +kernel
  have hsorted : srcSelection.sources.Pairwise fun a b => (Path.order a b).isLE = true := by
    decide +kernel
  exact LocalFiles.select_of_directory rfl hpath hroot (by decide +kernel) hfind
    (by decide +kernel) hsorted

/-- Neither test can be written, and nothing is told of that. -/
theorem run_troubles_blockedTests :
    Command.read createInSrc = .ok (.createTests srcOptions) ∧
      blockedTests.select plainly srcOptions = .ok srcSelection ∧
      srcSelection.sources ≠ [] ∧ .dryRun ∉ srcOptions.flags ∧
      (blockedTests.run plainly createInSrc).notes = [] ∧
      (blockedTests.run plainly createInSrc).failure = some (.incomplete 2 2) ∧
      ((turns srcSelection.settings blockedTests
        (srcSelection.requests (srcOptions.flags.contains .force))).flatMap Turn.troubles).length =
          2 := by
  have hread : Command.read createInSrc = .ok (.createTests srcOptions) := by decide +kernel
  have hsources : srcSelection.sources ≠ [] := List.cons_ne_nil _ _
  have hdry : Flag.dryRun ∉ srcOptions.flags := by decide
  obtain ⟨-, -, hhidden, hfailure⟩ := run_troubles blockedTests plainly createInSrc srcOptions
    srcSelection hread select_blockedTests hsources hdry
  have hmany : 1 < srcSelection.sources.length := by decide
  have hjson : Flag.json ∉ srcOptions.flags := by decide
  refine ⟨hread, select_blockedTests, hsources, hdry, (hhidden hmany hjson).1, ?_, ?_⟩
  · rw [hfailure]
    decide +kernel
  · decide +kernel

end TestScaffold
